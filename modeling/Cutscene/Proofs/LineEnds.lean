import Cutscene.Proofs.Blanks
import Cutscene.Proofs.Lines
import Cutscene.Reading.Loading

/-!
Blanks at the ends of lines do not matter.

A line is trimmed before anything is read from it, and a name is looked for after the blanks of its
line. So blanks before and after the text of a line leave each step of a loading as it is: state,
log and number of the line. That goes for carriage returns too, whatever writes them.
-/

namespace Cutscene

namespace Text

/-- Blanks that do not end a line: spaces, tabs, carriage returns, vertical tabs, form feeds. -/
def IsPadding (p : Text) : Prop := ∀ c ∈ p, c ∈ [' ', '\t', '\r', '\x0b', '\x0c']

/-- The text from line `n` on, with something put after the end of each line and before the start
of the next. -/
def framedFrom (left right : Nat → Text) (n : Nat) : Text → Text
  | [] => right n
  | c :: t =>
    if c = '\n' then right n ++ '\n' :: (left (n + 1) ++ framedFrom left right (n + 1) t)
    else c :: framedFrom left right n t

/-- The text with something put before and after each of its lines, counted from zero. -/
def framed (left right : Nat → Text) (s : Text) : Text := left 0 ++ framedFrom left right 0 s

/-- The text with a carriage return before each line break. -/
def withReturns (s : Text) : Text := s.flatMap fun c => if c = '\n' then ['\r', '\n'] else [c]

/-- The second line is the first one between blanks. -/
def Padded (t u : Text) : Prop := ∃ p q : Text, p.IsPadding ∧ q.IsPadding ∧ u = p ++ (t ++ q)

lemma isPadding_nil : IsPadding [] := fun _ h => by cases h

lemma IsPadding.isBlank {p : Text} (h : p.IsPadding) : ∀ c ∈ p, Text.isBlank c = true := by
  intro c hc
  have := h c hc
  simp only [List.mem_cons, List.not_mem_nil, or_false] at this
  rcases this with rfl | rfl | rfl | rfl | rfl <;> rfl

lemma IsPadding.newline_not_mem {p : Text} (h : p.IsPadding) : '\n' ∉ p := fun hc => by
  simpa using h _ hc

/-! ### Lines of a padded text -/

lemma lines_cons {c : Char} (hc : c ≠ '\n') {s u : Text} {us : List Text} (h : lines s = u :: us) :
    lines (c :: s) = (c :: u) :: us := by
  unfold lines at h ⊢
  rw [List.splitOn_cons_eq_if_modifyHead, if_neg (by simpa using hc), h]
  rfl

lemma lines_append_of_not_mem {p : Text} (hp : '\n' ∉ p) {s u : Text} {us : List Text}
    (h : lines s = u :: us) : lines (p ++ s) = (p ++ u) :: us := by
  induction p with
  | nil => exact h
  | cons c p ih =>
    simp only [List.mem_cons, not_or] at hp
    exact lines_cons (Ne.symm hp.1) (ih hp.2)

variable {left right : Nat → Text}

/-- From the middle of a line on, the rest of that line is padded on one side only. -/
lemma lines_framedFrom (hl : ∀ i, (left i).IsPadding) (hr : ∀ i, (right i).IsPadding) (n : Nat)
    (s : Text) :
    ∃ u us q us', lines s = u :: us ∧ lines (framedFrom left right n s) = (u ++ q) :: us' ∧
      q.IsPadding ∧ List.Forall₂ Padded us us' := by
  induction s generalizing n with
  | nil =>
    exact ⟨[], [], right n, [], lines_nil, lines_of_not_mem (hr n).newline_not_mem, hr n, .nil⟩
  | cons c s ih =>
    by_cases hc : c = '\n'
    · subst hc
      obtain ⟨u, us, q, us', hs, hframed, hq, hrest⟩ := ih (n + 1)
      refine ⟨[], u :: us, right n, (left (n + 1) ++ (u ++ q)) :: us', ?_, ?_, hr n, ?_⟩
      · rw [show '\n' :: s = [] ++ '\n' :: s from rfl, lines_append_newline, lines_nil, hs]
        rfl
      · rw [framedFrom, if_pos rfl, lines_append_newline,
          lines_of_not_mem (hr n).newline_not_mem,
          lines_append_of_not_mem (hl _).newline_not_mem hframed]
        rfl
      · exact .cons ⟨_, q, hl _, hq, rfl⟩ hrest
    · obtain ⟨u, us, q, us', hs, hframed, hq, hrest⟩ := ih n
      refine ⟨c :: u, us, q, us', lines_cons hc hs, ?_, hq, hrest⟩
      rw [framedFrom, if_neg hc]
      exact lines_cons hc hframed

/-- The lines of a framed text are the padded lines of the text. -/
lemma lines_framed (hl : ∀ i, (left i).IsPadding) (hr : ∀ i, (right i).IsPadding) (s : Text) :
    List.Forall₂ Padded (lines s) (lines (s.framed left right)) := by
  obtain ⟨u, us, q, us', hs, hframed, hq, hrest⟩ := lines_framedFrom hl hr 0 s
  rw [hs, framed, lines_append_of_not_mem (hl 0).newline_not_mem hframed]
  exact .cons ⟨left 0, q, hl 0, hq, rfl⟩ hrest

/-- A carriage return before each line break is padding after every line but the last. -/
lemma framedFrom_returns {n last : Nat} {s : Text} (h : last = n + s.count '\n') :
    framedFrom (fun _ => []) (fun i => if i < last then ['\r'] else []) n s = s.withReturns := by
  induction s generalizing n with
  | nil =>
    have : ¬ n < last := by simp [h]
    rw [framedFrom, if_neg this]
    rfl
  | cons c s ih =>
    by_cases hc : c = '\n'
    · subst hc
      rw [List.count_cons_self] at h
      rw [framedFrom, if_pos rfl, if_pos (by omega), ih (by omega)]
      rfl
    · rw [List.count_cons_of_ne hc] at h
      rw [framedFrom, if_neg hc, ih h]
      simp [withReturns, hc]

/-! ### Trimming -/

lemma trimEnd_append_blanks {t q : Text} (hq : ∀ c ∈ q, isBlank c = true) :
    trimEnd (t ++ q) = trimEnd t := by
  have hrev : ∀ c ∈ q.reverse, isBlank c = true := fun c hc => hq c (List.mem_reverse.mp hc)
  unfold trimEnd
  rw [List.reverse_append, List.dropWhile_append_of_pos hrev]

/-- Blanks after a text are no part of its first word. -/
lemma word_append_blanks {q : Text} (hq : ∀ c ∈ q, isBlank c = true) (t : Text) :
    word (t ++ q) = word t ∧ afterWord (t ++ q) = afterWord t ++ q := by
  have hend : ∀ c ∈ q.head?, isBlank c = true := fun c hc => hq c (List.mem_of_head? hc)
  rcases hleft : afterWord t with _ | ⟨c, u⟩
  · -- the text is one word, up to the blanks
    have ht : word t = t := by simpa [hleft] using word_append_afterWord t
    have hvisible : ∀ c ∈ t, isBlank c = false := fun c hc => not_isBlank_of_mem_word (ht ▸ hc)
    rw [ht]
    exact ⟨word_append hvisible hend, afterWord_append hvisible hend⟩
  · have hvisible : ∀ c ∈ word t, isBlank c = false := fun c => not_isBlank_of_mem_word
    have hblank : isBlank c = true := isBlank_head?_afterWord t c (by simp [hleft])
    have hsplit : t ++ q = word t ++ (c :: u ++ q) := by
      rw [← List.append_assoc, ← hleft, word_append_afterWord]
    rw [hsplit]
    exact ⟨word_append hvisible (by simpa using hblank),
      afterWord_append hvisible (by simpa using hblank)⟩

/-- Blanks before a text and after it are dropped, up to those after it unless all is blank. -/
lemma dropBlanks_pad {p q : Text} (hp : ∀ c ∈ p, isBlank c = true)
    (hq : ∀ c ∈ q, isBlank c = true) (t : Text) :
    (dropBlanks t = [] ∧ dropBlanks (p ++ (t ++ q)) = []) ∨
      dropBlanks (p ++ (t ++ q)) = dropBlanks t ++ q := by
  unfold dropBlanks
  rw [List.dropWhile_append_of_pos hp, List.dropWhile_append]
  by_cases ht : t.dropWhile isBlank = []
  · rw [ht, List.isEmpty_nil, if_pos rfl]
    exact .inl ⟨rfl, List.dropWhile_eq_nil_iff.mpr hq⟩
  · rw [if_neg (by simpa using ht)]
    exact .inr rfl

lemma Padded.trim_eq {t u : Text} (h : Padded t u) : trim u = trim t := by
  obtain ⟨p, q, hp, hq, rfl⟩ := h
  unfold trim
  rcases dropBlanks_pad hp.isBlank hq.isBlank t with ⟨ht, hpad⟩ | hpad
  · rw [ht, hpad]
  · rw [hpad, trimEnd_append_blanks hq.isBlank]

end Text

/-! ### Loading -/

namespace Loading

open Text (Padded)

lemma bodyLine_of_padded {t u : Text} (h : Padded t u) (l : Loading) (name : Text) (b : Body) :
    l.bodyLine name b u = l.bodyLine name b t := by
  unfold bodyLine Command.ofLine? Command.isCommand
  rw [h.trim_eq]

/-- **One line** is read as it is without the blanks around it. -/
lemma step_of_padded {t u : Text} (h : Padded t u) (l : Loading) : l.step u = l.step t := by
  unfold step
  rcases l.stage with _ | ⟨name, b⟩ | f
  · -- a name is the first word after the blanks, and what follows it is padded on one side
    obtain ⟨p, q, hp, hq, rfl⟩ := h
    dsimp only
    rcases Text.dropBlanks_pad hp.isBlank hq.isBlank t with ⟨ht, hpad⟩ | hpad
    · rw [ht, hpad]
    · obtain ⟨hword, hafter⟩ := Text.word_append_blanks hq.isBlank (Text.dropBlanks t)
      rw [hpad, hword, hafter]
      split
      · rfl
      · exact bodyLine_of_padded ⟨[], q, Text.isPadding_nil, hq, rfl⟩ l _ _
  · exact bodyLine_of_padded h l name b
  · rfl

lemma run_of_padded {ts us : List Text} (h : List.Forall₂ Padded ts us) (l : Loading) :
    l.run us = l.run ts := by
  induction h generalizing l with
  | nil => rfl
  | cons hline _ ih => rw [run_cons, run_cons, step_of_padded hline, ih]

end Loading

namespace Catalog

lemma load_of_padded {s s' : Text} (h : List.Forall₂ Text.Padded (Text.lines s) (Text.lines s')) :
    load s' = load s ∧ loadLog s' = loadLog s := by
  unfold load loadLog Loading.ofSource
  rw [Loading.run_of_padded h]
  exact ⟨rfl, rfl⟩

/-- **Blanks around lines do not matter.** A text loads as it does without the blanks before and
after its lines: the same scripts or the same fault, and the same log. So a text may have carriage
returns before all its line breaks. -/
theorem load_framed :
    (∀ (left right : Nat → Text) (s : Text), (∀ i, (left i).IsPadding) →
      (∀ i, (right i).IsPadding) →
      load (s.framed left right) = load s ∧ loadLog (s.framed left right) = loadLog s) ∧
    ∀ s : Text, load s.withReturns = load s ∧ loadLog s.withReturns = loadLog s := by
  have hframed {left right : Nat → Text} (hl : ∀ i, (left i).IsPadding)
      (hr : ∀ i, (right i).IsPadding) (s : Text) :
      load (s.framed left right) = load s ∧ loadLog (s.framed left right) = loadLog s :=
    load_of_padded (Text.lines_framed hl hr s)
  refine ⟨fun left right s hl hr => hframed hl hr s, fun s => ?_⟩
  have hreturns : ∀ i, Text.IsPadding (if i < s.count '\n' then ['\r'] else []) := by
    intro i c hc
    split at hc
    · rw [List.mem_singleton.mp hc]
      decide
    · cases hc
  have h := hframed (fun _ => Text.isPadding_nil) hreturns s
  rwa [Text.framed, List.nil_append, Text.framedFrom_returns (by omega)] at h

/-- A tab before each line and a carriage return after it; one line is ignored, one is at fault. -/
theorem load_framed_faulty :
    load "\tA\r\n\t//ETE\r\n\t//SKLINE\r".toList =
      .error (.script ⟨.misplaced, some "SKLINE".toList, some 3⟩) ∧
    loadLog "\tA\r\n\t//ETE\r\n\t//SKLINE\r".toList = [.ignored "ETE".toList 2] := by
  have htab : ∀ _ : Nat, Text.IsPadding ['\t'] := fun _ =>
    List.forall_mem_singleton.mpr (by decide)
  have hreturn : ∀ _ : Nat, Text.IsPadding ['\r'] := fun _ =>
    List.forall_mem_singleton.mpr (by decide)
  have hload : load "A\n//ETE\n//SKLINE".toList =
      .error (.script ⟨.misplaced, some "SKLINE".toList, some 3⟩) := by
    decide +kernel
  have hlog : loadLog "A\n//ETE\n//SKLINE".toList = [.ignored "ETE".toList 2] := by decide +kernel
  obtain ⟨hsame, hsamelog⟩ := load_framed.1 _ _ "A\n//ETE\n//SKLINE".toList htab hreturn
  have htext : Text.framed (fun _ => ['\t']) (fun _ => ['\r']) "A\n//ETE\n//SKLINE".toList =
      "\tA\r\n\t//ETE\r\n\t//SKLINE\r".toList := by
    decide +kernel
  rw [htext] at hsame hsamelog
  exact ⟨hsame.trans hload, hsamelog.trans hlog⟩

end Catalog

end Cutscene
