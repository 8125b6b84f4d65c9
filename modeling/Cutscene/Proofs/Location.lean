import Cutscene.Proofs.Failures
import Cutscene.Proofs.Loading
import Cutscene.Proofs.Steps

/-!
Where an error is.

Every fault of a text is an error in a script that has the kind, the command and the line that it
should have, or a number that is too long. The line is one of the text, the command stands on it, and
what is allowed there depends on the lines of its script before it.
-/

namespace Cutscene

/-- The tokens of the commands on some lines. -/
def Text.tokens (ts : List Text) : List Text := (ts.filterMap (Command.ofLine? 0)).map Command.token

/-- The lines open a block of pages and do not close it. -/
def Text.OpenPages (ts : List Text) : Prop :=
  ∃ before after, tokens ts = before ++ Keyword.pages.token :: after ∧
    Keyword.pagesEnd.token ∉ after

/-- The last of some lines belongs to a script. Above stand complete scripts, then the line with the
script's name; the rest of that line is the first line of the body. The body is `said` up to the
last line, which is not complete yet, and `piece` is what that line adds to it. -/
inductive Text.InBody : List Text → List Text → Text → Prop
  | intro {earlier rest said : List Text} {heading piece : Text} {k : Catalog}
      (complete : Catalog.load (['\n'].intercalate earlier) = .ok k)
      (named : word (dropBlanks heading) ≠ [])
      (body : afterWord (dropBlanks heading) :: rest = said ++ [piece])
      (unended : Keyword.scriptEnd.token ∉ tokens said) :
      InBody (earlier ++ heading :: rest) said piece

/-- The command stands in the body of a script, on the line of the text whose number it has. -/
def Command.SaidIn (s : Text) (c : Command) : Prop :=
  ∃ (n : Nat) (said : List Text) (piece : Text), (1 ≤ n ∧ n ≤ (Text.lines s).length) ∧
    Text.InBody ((Text.lines s).take n) said piece ∧ ofLine? n piece = some c

/-- What an error in a text may be, and where. -/
inductive ScriptError.Explained (s : Text) : ScriptError → Prop
  /-- The last line belongs to a script whose end never comes, or not even that of its pages. -/
  | unterminated {k : Keyword} {said : List Text} {piece : Text}
      (place : Text.InBody (Text.lines s) said piece)
      (unended : Keyword.scriptEnd.token ∉ Text.tokens (said ++ [piece]))
      (marker : (k = .pagesEnd ∧ Text.OpenPages (said ++ [piece])) ∨
        (k = .scriptEnd ∧ ¬ Text.OpenPages (said ++ [piece]))) :
      Explained s ⟨.unterminated, some k.token, none⟩
  /-- A line of the text is a command that the error can be about. -/
  | located {cause : Cause} {k : Keyword} {n : Nat} {said : List Text} {piece : Text}
      (line : 1 ≤ n ∧ n ≤ (Text.lines s).length)
      (place : Text.InBody ((Text.lines s).take n) said piece)
      (marked : ['/', '/'] <+: Text.trim piece)
      (token : Text.word (Text.dropBlanks (Text.dropSlashes (Text.trim piece))) = k.token)
      (kind : cause.kind.Concerns (Text.OpenPages said) k) :
      Explained s ⟨cause, some k.token, some n⟩

/-! ### Open blocks of pages -/

namespace Text

lemma tokens_append (ts : List Text) (t : Text) (line : Int) :
    tokens (ts ++ [t]) = tokens ts ++ ((Command.ofLine? line t).map Command.token).toList := by
  have hline : (Command.ofLine? 0 t).map Command.token =
      (Command.ofLine? line t).map Command.token := by
    unfold Command.ofLine?
    split <;> rfl
  rw [← hline, tokens, List.filterMap_append, List.map_append]
  cases h : Command.ofLine? 0 t <;> simp [tokens, h]

lemma not_openPages_nil : ¬ OpenPages [] := by
  rintro ⟨before, after, h, -⟩
  cases before <;> cases h

lemma openPages_append_of_none {t : Text} {line : Int} (h : Command.ofLine? line t = none)
    (ts : List Text) : OpenPages (ts ++ [t]) ↔ OpenPages ts := by
  unfold OpenPages
  rw [tokens_append ts t line, h, Option.map_none, Option.toList_none, List.append_nil]

/-- One more command opens a block, or leaves one open. -/
lemma openPages_append_of_some {t : Text} {line : Int} {c : Command}
    (h : Command.ofLine? line t = some c) (ts : List Text) :
    OpenPages (ts ++ [t]) ↔
      c.token = Keyword.pages.token ∨ (OpenPages ts ∧ c.token ≠ Keyword.pagesEnd.token) := by
  unfold OpenPages
  rw [tokens_append ts t line, h, Option.map_some, Option.toList_some]
  constructor
  · rintro ⟨before, after, hts, hafter⟩
    rcases List.eq_nil_or_concat' after with rfl | ⟨after, last, rfl⟩
    · exact .inl (List.append_inj_right' hts rfl |> List.singleton_inj.mp)
    · -- the block was open before, and the last command does not close it
      rw [← List.cons_append, ← List.append_assoc] at hts
      have hlast : c.token = last := List.append_inj_right' hts rfl |> List.singleton_inj.mp
      rw [List.mem_append, not_or, List.mem_singleton] at hafter
      refine .inr ⟨⟨before, after, List.append_inj_left' hts rfl, hafter.1⟩, ?_⟩
      rw [hlast]
      exact Ne.symm hafter.2
  · rintro (hpages | ⟨⟨before, after, hts, hafter⟩, hend⟩)
    · exact ⟨tokens ts, [], by rw [hpages], List.not_mem_nil⟩
    · refine ⟨before, after ++ [c.token], by rw [hts, List.append_assoc]; rfl, ?_⟩
      rw [List.mem_append, not_or, List.mem_singleton]
      exact ⟨hafter, Ne.symm hend⟩

end Text

namespace Body

lemma Outside.not_inPages {c : Command} {b : Body} {actions : Script} {log : Log}
    (h : Outside c b actions log) : ¬ b.InPages := by
  cases h with
  | nothing => exact not_inPages_nothing _
  | box => exact not_inPages_box _ _ _

/-- A body is in a block of pages from the command that opens it to the one that closes it. -/
lemma Step.inPages_iff {c : Command} {b b' : Body} {log : Log} (h : Step c b b' log) :
    b'.InPages ↔ c.keyword? = some .pages ∨ (b.InPages ∧ c.keyword? ≠ some .pagesEnd) := by
  cases h with
  | boxText hk _ | boxBlank hk | pagesEnd hk | page hk | ignoredOnPage hk => simp [hk]
  | pages hout hk => simp [hk]
  | box hout hk _ | menu hout hk _ | ignored hout hk => simp [hout.not_inPages, hk]
  | onPage hi =>
    obtain ⟨o, -, hk, -⟩ := Command.oneLiner_of_instruction? hi
    simp [hk]
  | oneLine hout hi =>
    obtain ⟨o, -, hk, -⟩ := Command.oneLiner_of_instruction? hi
    simp [hout.not_inPages, hk]

/-- A step is never the last. -/
lemma Step.ne_scriptEnd {c : Command} {b b' : Body} {log : Log} (h : Step c b b' log) :
    c.token ≠ Keyword.scriptEnd.token := by
  rw [Ne, ← Command.keyword?_eq_some_iff]
  cases h with
  | boxText hk _ | boxBlank hk | pagesEnd hk | page hk | ignoredOnPage hk | pages _ hk
  | box _ hk _ | menu _ hk _ | ignored _ hk => simp [hk]
  | onPage hi | oneLine _ hi =>
    obtain ⟨o, -, hk, -⟩ := Command.oneLiner_of_instruction? hi
    simp [hk]

/-- The body stands where these lines have led: there is a block of pages open in it if they leave
one open, and none of them is the end of the script. -/
structure After (said : List Text) (b : Body) : Prop where
  inPages_iff : b.InPages ↔ Text.OpenPages said
  unended : Keyword.scriptEnd.token ∉ Text.tokens said

lemma after_empty : After [] empty where
  inPages_iff := iff_of_false (not_inPages_nothing _) Text.not_openPages_nil
  unended := List.not_mem_nil

/-- One more command. -/
lemma Step.after {c : Command} {b b' : Body} {log : Log} {said : List Text} {t : Text} {line : Int}
    (h : Step c b b' log) (hb : b.After said) (hc : Command.ofLine? line t = some c) :
    b'.After (said ++ [t]) where
  inPages_iff := by
    rw [h.inPages_iff, hb.inPages_iff, Text.openPages_append_of_some hc, Ne,
      Command.keyword?_eq_some_iff, Command.keyword?_eq_some_iff]
  unended := by
    rw [Text.tokens_append said t line, hc]
    simpa using ⟨hb.unended, h.ne_scriptEnd.symm⟩

end Body

/-! ### Where a loading stands -/

namespace Loading

variable {l : Loading} {name name' : Text} {b b' : Body} {t : Text} {f : Fault}

/-- A line leaves a body as it is, or is one more command in it. -/
lemma after_of_bodyLine {said : List Text} (hb : b.After said)
    (h : (l.bodyLine name b t).stage = .inside name' b') : b'.After (said ++ [t]) := by
  unfold bodyLine at h
  split at h
  · rename_i hc
    cases h
    refine ⟨hb.inPages_iff.trans (Text.openPages_append_of_none hc said).symm, ?_⟩
    rw [Text.tokens_append said t l.line, hc]
    simpa using hb.unended
  · rename_i c hc
    rcases hfeed : b.feed c with ⟨b'' | s | s | e, log⟩ <;> rw [hfeed] at h <;> cases h
    exact (Body.step_of_feed hfeed).after hb hc

lemma stopped_of_bodyLine (h : (l.bodyLine name b t).stage = .stopped f) :
    ∃ c, Command.ofLine? l.line t = some c ∧ (b.feed c).1 = .fail f := by
  unfold bodyLine at h
  split at h
  · cases h
  · rename_i c hc
    rcases hfeed : b.feed c with ⟨b' | s | s | e, log⟩ <;> rw [hfeed] at h <;> cases h
    exact ⟨c, hc, by rw [hfeed]⟩

/-- Inside a script, its name is above, and complete scripts above that. -/
lemma exists_heading_of_inside {ls : List Text} (h : (start.run ls).stage = .inside name b) :
    ∃ earlier heading rest, ls = earlier ++ heading :: rest ∧
      (start.run earlier).stage = .between ∧ Text.word (Text.dropBlanks heading) ≠ [] ∧
      b.After (Text.afterWord (Text.dropBlanks heading) :: rest) := by
  induction ls using List.reverseRecOn generalizing name b with
  | nil => cases h
  | append_singleton ls t ih =>
    rw [run_append] at h
    change ((start.run ls).step t).stage = .inside name b at h
    unfold step at h
    split at h
    · rename_i f hstage
      rw [hstage] at h
      cases h
    · rename_i name' b' hstage
      obtain ⟨earlier, heading, rest, rfl, hearlier, hword, hafter⟩ := ih hstage
      exact ⟨earlier, heading, rest ++ [t], by simp, hearlier, hword, after_of_bodyLine hafter h⟩
    · rename_i hstage
      dsimp only at h
      split at h
      · cases h
      · rename_i hword
        exact ⟨ls, t, [], rfl, hstage, hword, after_of_bodyLine Body.after_empty h⟩

section Place

variable {s : Text} {before after : List Text}

/-- Between two scripts, the text so far is complete. -/
lemma load_of_between (hs : Text.lines s = before ++ after)
    (h : (start.run before).stage = .between) :
    ∃ k, Catalog.load (['\n'].intercalate before) = .ok k := by
  have hls : ∀ t ∈ before, '\n' ∉ t := fun t ht =>
    Text.newline_not_mem_of_mem_lines (s := s) (hs ▸ List.mem_append_left _ ht)
  unfold Catalog.load ofSource
  by_cases hnil : before = []
  · subst hnil
    exact ⟨_, rfl⟩
  · rw [Text.lines_intercalate hnil hls]
    exact ⟨_, by simp only [result, h]; rfl⟩

/-- **The next line of a script** adds itself to the body. -/
lemma inBody_of_inside (hs : Text.lines s = before ++ t :: after)
    (h : (start.run before).stage = .inside name b) :
    ∃ said, Text.InBody ((Text.lines s).take (before.length + 1)) said t ∧ b.After said := by
  obtain ⟨earlier, heading, rest, rfl, hbetween, hword, hafter⟩ := exists_heading_of_inside h
  obtain ⟨k, hk⟩ := load_of_between (hs.trans (List.append_assoc _ _ _)) hbetween
  refine ⟨_, ?_, hafter⟩
  rw [hs, List.take_length_add_append, List.take_one, List.head?_cons, List.append_assoc]
  exact .intro hk hword rfl hafter.unended

/-- **The line with the name** of a script is the first line of the body after the name. -/
lemma inBody_of_between (hs : Text.lines s = before ++ t :: after)
    (h : (start.run before).stage = .between) (hword : Text.word (Text.dropBlanks t) ≠ []) :
    Text.InBody ((Text.lines s).take (before.length + 1)) []
      (Text.afterWord (Text.dropBlanks t)) := by
  obtain ⟨k, hk⟩ := load_of_between hs h
  rw [hs, List.take_length_add_append, List.take_one, List.head?_cons]
  exact .intro hk hword rfl List.not_mem_nil

lemma line_run_start (before : List Text) :
    (start.run before).line = ((before.length + 1 : Nat) : Int) := by
  rw [line_run, Nat.cast_add, Int.add_comm]
  rfl

/-- The line after some lines of a text has a number. -/
lemma number_bounds (hs : Text.lines s = before ++ t :: after) :
    1 ≤ before.length + 1 ∧ before.length + 1 ≤ (Text.lines s).length := by
  rw [hs, List.length_append, List.length_cons]
  omega

end Place

end Loading

/-! ### What a fault is about -/

lemma Command.token_of_ofLine? {line : Int} {t : Text} {c : Command} (h : ofLine? line t = some c) :
    ['/', '/'] <+: Text.trim t ∧
      c.token = Text.word (Text.dropBlanks (Text.dropSlashes (Text.trim t))) := by
  unfold ofLine? at h
  split at h
  · rename_i ht
    cases h
    exact ⟨List.isPrefixOf_iff_prefix.mp ht, rfl⟩
  · cases h

/-- The arguments of a command stand on its line. -/
lemma Command.arguments_isInfix {line : Int} {t : Text} {c : Command} (h : ofLine? line t = some c) :
    c.arguments <:+: t := by
  have htrim : Text.trim t <:+: t :=
    (List.rdropWhile_prefix Text.isBlank _).isInfix.trans (List.dropWhile_suffix _).isInfix
  unfold ofLine? at h
  split at h
  · cases h
    exact ((List.dropWhile_suffix _).trans ((List.dropWhile_suffix _).trans
      (List.dropWhile_suffix _))).isInfix.trans htrim
  · cases h

lemma Text.isInfix_of_mem_lines {s t : Text} (h : t ∈ lines s) : t <:+: s := by
  rw [← intercalate_lines s]
  generalize lines s = ts at h
  induction ts with
  | nil => cases h
  | cons u us ih =>
    cases us with
    | nil =>
      rw [List.mem_singleton.mp h, List.intercalate_singleton]
    | cons v us =>
      rw [List.intercalate_cons_cons]
      rcases List.mem_cons.mp h with rfl | h
      · exact (List.prefix_append _ _).trans (List.prefix_append _ _) |>.isInfix
      · exact (ih h).trans (List.suffix_append _ _).isInfix

/-- What a line adds to a body stands on that line. -/
lemma Text.InBody.exists_suffix {ls said : List Text} {piece : Text} (h : InBody ls said piece) :
    ∃ line ∈ ls, piece <:+ line := by
  obtain @⟨earlier, rest, said, heading, piece, k, -, -, body, -⟩ := h
  have hpiece : piece ∈ afterWord (dropBlanks heading) :: rest := body ▸ by simp
  rcases List.mem_cons.mp hpiece with rfl | hrest
  · exact ⟨heading, by simp, (List.dropWhile_suffix _).trans (List.dropWhile_suffix _)⟩
  · exact ⟨piece, by simp [hrest], List.suffix_refl _⟩

lemma Text.InBody.isInfix {s piece : Text} {said : List Text} {n : Nat}
    (h : InBody ((lines s).take n) said piece) : piece <:+: s := by
  obtain ⟨line, hline, hpiece⟩ := h.exists_suffix
  exact hpiece.isInfix.trans (isInfix_of_mem_lines ((List.take_prefix _ _).subset hline))

lemma Command.SaidIn.arguments_isInfix {s : Text} {c : Command} (h : c.SaidIn s) :
    c.arguments <:+: s := by
  obtain ⟨n, said, piece, -, hplace, hc⟩ := h
  exact (Command.arguments_isInfix hc).trans hplace.isInfix

/-- The fault of a command in a body is an error that names it, or a number on its line that is too
long. -/
lemma Fault.CausedBy.explained {s : Text} {said : List Text} {piece : Text} {n : Nat}
    {pagesOpen : Prop} {c : Command} {f : Fault} (h : f.CausedBy pagesOpen c)
    (hc : Command.ofLine? n piece = some c) (hopen : pagesOpen ↔ Text.OpenPages said)
    (hline : 1 ≤ n ∧ n ≤ (Text.lines s).length)
    (hplace : Text.InBody ((Text.lines s).take n) said piece) :
    (∃ e, f = .script e ∧ e.Explained s) ∨ f.TooLongIn s := by
  refine h.imp ?_ fun hlong => hlong.mono ((Command.arguments_isInfix hc).trans hplace.isInfix)
  rintro ⟨cause, k, hk, rfl, hkind⟩
  obtain ⟨hmarked, htoken⟩ := Command.token_of_ofLine? hc
  rw [Command.keyword?_eq_some_iff] at hk
  rw [propext hopen] at hkind
  refine ⟨⟨cause, c.token, c.line⟩, rfl, ?_⟩
  rw [Command.line_of_ofLine? hc, hk]
  exact .located hline hplace hmarked (htoken ▸ hk) hkind

/-- **Where a loading stops.** The line that stops it holds a command of a script, and the fault is
about that command or a number in it. -/
theorem Loading.explained_of_stopped {s : Text} {f : Fault}
    (h : (ofSource s).stage = .stopped f) :
    (∃ e, f = .script e ∧ e.Explained s) ∨ f.TooLongIn s := by
  obtain ⟨before, t, after, hs, halive, ht⟩ := exists_split_of_run_stopped alive_start h
  have hbounds := number_bounds hs
  unfold step at ht
  split at ht
  · rename_i f' hstage
    exact absurd hstage (halive f')
  · rename_i name b hstage
    obtain ⟨c, hc, hfeed⟩ := stopped_of_bodyLine ht
    rw [line_run_start] at hc
    obtain ⟨said, hplace, hafter⟩ := inBody_of_inside hs hstage
    exact (Body.feed_fault hfeed).explained hc hafter.inPages_iff hbounds hplace
  · -- the line names the script, and its rest is the first line of the body
    rename_i hstage
    dsimp only at ht
    split at ht
    · cases ht
    · rename_i hword
      obtain ⟨c, hc, hfeed⟩ := stopped_of_bodyLine ht
      rw [line_run_start] at hc
      have hplace := inBody_of_between hs hstage hword
      exact (Body.feed_fault hfeed).explained hc Body.after_empty.inPages_iff hbounds hplace

lemma Body.missing_eq (b : Body) :
    (b.missing = .pagesEnd ∧ b.InPages) ∨ (b.missing = .scriptEnd ∧ ¬ b.InPages) := by
  obtain ⟨actions, inside⟩ := b
  cases inside with
  | nothing => exact .inr ⟨rfl, not_inPages_nothing actions⟩
  | box frame lines => exact .inr ⟨rfl, not_inPages_box actions frame lines⟩
  | pages p => exact .inl ⟨rfl, inPages_pages actions p⟩

/-- **Where a loading is unfinished.** The text ends inside a script, and its end marker is missing,
or that of the pages that are open there. -/
theorem Loading.explained_of_inside {s name : Text} {b : Body}
    (h : (ofSource s).stage = .inside name b) :
    ScriptError.Explained s ⟨.unterminated, some b.missing.token, none⟩ := by
  obtain ⟨earlier, heading, rest, hs, hbetween, hword, hafter⟩ := exists_heading_of_inside h
  obtain ⟨k, hk⟩ := load_of_between hs hbetween
  obtain ⟨said, piece, hbody⟩ : ∃ said piece,
      Text.afterWord (Text.dropBlanks heading) :: rest = said ++ [piece] :=
    (List.eq_nil_or_concat' _).resolve_left (List.cons_ne_nil _ _)
  rw [hbody] at hafter
  have hsaid : Keyword.scriptEnd.token ∉ Text.tokens said := fun hend => hafter.unended (by
    rw [Text.tokens_append said piece 0]
    exact List.mem_append_left _ hend)
  have hplace : Text.InBody (Text.lines s) said piece := hs ▸ .intro hk hword hbody hsaid
  have hmarker := b.missing_eq
  rw [hafter.inPages_iff] at hmarker
  exact .unterminated hplace hafter.unended hmarker

/-! ### Texts -/

/-- No run of digits in the text is too long to be read. -/
def Text.DigitsFit (t : Text) : Prop :=
  ∀ d, d <:+: t → (∀ c ∈ d, c.isDigit = true) → d.length ≤ digitLimit

lemma Fault.TooLongIn.not_digitsFit {t : Text} {f : Fault} (h : f.TooLongIn t) : ¬ t.DigitsFit := by
  obtain ⟨d, hd, hdigits, hlong, -⟩ := h
  exact fun hfit => absurd (hfit d hd hdigits) (by omega)

lemma Text.DigitsFit.of_isInfix {s t : Text} (h : t.DigitsFit) (hs : s <:+: t) : s.DigitsFit :=
  fun d hd => h d (hd.trans hs)

lemma Text.digitsFit_of_length {t : Text} (h : t.length ≤ digitLimit) : t.DigitsFit :=
  fun _ hd _ => hd.length_le.trans h

/-- A text that does not load is explained by its error, unless a number in it is too long. -/
lemma Catalog.explained_of_load {s : Text} {f : Fault} (h : load s = .error f) :
    (∃ e, f = .script e ∧ e.Explained s) ∨ f.TooLongIn s := by
  unfold load Loading.result at h
  split at h
  · cases h
  · rename_i name b hstage
    cases h
    exact .inl ⟨_, rfl, Loading.explained_of_inside hstage⟩
  · rename_i e hstage
    cases h
    exact Loading.explained_of_stopped hstage

/-- **Failures and their places.** A text whose digits fit loads, or fails with an error that its
lines explain. No text at all fails for a block without a page. -/
theorem Catalog.load_explained (s : Text) :
    (s.DigitsFit → (∃ k, load s = .ok k) ∨ ∃ e, load s = .error (.script e) ∧ e.Explained s) ∧
    load s ≠ .error .noPages := by
  constructor
  · intro hfit
    rcases h : load s with f | k
    · rcases explained_of_load h with ⟨e, rfl, he⟩ | hlong
      · exact .inr ⟨e, rfl, he⟩
      · exact absurd hfit hlong.not_digitsFit
    · exact .inl ⟨k, rfl⟩
  · intro h
    rcases explained_of_load h with ⟨e, he, -⟩ | ⟨d, -, -, -, hd⟩
    · cases he
    · cases hd

/-- A menu on a page that the line of the script's name has opened. -/
theorem Catalog.load_explained_menu :
    load "Intro //PAGESSTART\n\n //MENU 1".toList =
      .error (.script ⟨.misplaced, some "MENU".toList, some 3⟩) ∧
    ScriptError.Explained "Intro //PAGESSTART\n\n //MENU 1".toList
      ⟨.misplaced, some "MENU".toList, some 3⟩ := by
  have hload : load "Intro //PAGESSTART\n\n //MENU 1".toList =
      .error (.script ⟨.misplaced, some "MENU".toList, some 3⟩) := by
    decide +kernel
  have hfit : Text.DigitsFit "Intro //PAGESSTART\n\n //MENU 1".toList :=
    Text.digitsFit_of_length (by decide)
  refine ⟨hload, ?_⟩
  rcases (load_explained _).1 hfit with ⟨k, hk⟩ | ⟨e, he, hexplained⟩
  · rw [hload] at hk
    cases hk
  · rw [hload] at he
    cases he
    exact hexplained

end Cutscene
