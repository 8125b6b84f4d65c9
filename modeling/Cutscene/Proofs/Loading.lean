import Cutscene.Proofs.LineNumbers
import Cutscene.Proofs.Lines

/-!
A loading stops at the first fault.

Each line is one step, and a loading that has stopped stays as it is. So a fault on some line is
settled by the lines up to it, and nothing before that line is at fault.
-/

namespace Cutscene

namespace Loading

def Alive (l : Loading) : Prop := ∀ f, l.stage ≠ .stopped f

lemma alive_start : start.Alive := fun _ h => by cases h

/-! ### One line -/

lemma line_bodyLine (l : Loading) (name : Text) (b : Body) (t : Text) :
    (l.bodyLine name b t).line = l.line + 1 := by
  unfold bodyLine
  split
  · rfl
  · split <;> rfl

lemma line_step (l : Loading) (t : Text) : (l.step t).line = l.line + 1 := by
  unfold step
  split
  · rfl
  · exact line_bodyLine ..
  · dsimp only
    split
    · rfl
    · exact line_bodyLine ..

lemma stage_step_of_stopped {l : Loading} {f : Fault} (h : l.stage = .stopped f) (t : Text) :
    (l.step t).stage = .stopped f := by
  simp [step, h, goOn]

/-- An empty line changes nothing about where the loading stands. -/
lemma step_nil (l : Loading) : l.step [] = l.goOn l.stage [] := by
  unfold step
  split <;> rename_i h
  · rfl
  · rw [h]; rfl
  · rw [h]; rfl

lemma line_of_bodyLine_stopped {l : Loading} {name : Text} {b : Body} {t : Text} {e : ScriptError}
    {n : Int} (h : (l.bodyLine name b t).stage = .stopped (.script e)) (hn : e.line = some n) :
    n = l.line := by
  unfold bodyLine at h
  split at h
  · cases h
  · rename_i c hc
    rw [← Command.line_of_ofLine? hc]
    split at h
    · cases h
    · cases h
    · cases h
    · rename_i f log hf
      cases h
      exact Body.line_of_feed_eq_fail hf hn

/-- A fault that names a line names the line that it came up on. -/
lemma line_of_step_stopped {l : Loading} {t : Text} {e : ScriptError} {n : Int} (hl : l.Alive)
    (h : (l.step t).stage = .stopped (.script e)) (hn : e.line = some n) : n = l.line := by
  unfold step at h
  split at h
  · rename_i f hf
    exact absurd hf (hl f)
  · exact line_of_bodyLine_stopped h hn
  · dsimp only at h
    split at h
    · cases h
    · exact line_of_bodyLine_stopped h hn

/-! ### Many lines -/

lemma line_run (l : Loading) (ts : List Text) : (l.run ts).line = l.line + ts.length := by
  induction ts generalizing l with
  | nil => simp
  | cons t ts ih =>
    rw [run_cons, ih, line_step, List.length_cons]
    omega

lemma stage_run_of_stopped {l : Loading} {f : Fault} (h : l.stage = .stopped f) (ts : List Text) :
    (l.run ts).stage = .stopped f := by
  induction ts generalizing l with
  | nil => exact h
  | cons t ts ih => exact ih (stage_step_of_stopped h t)

/-- **The first fault.** A loading that stops does so on one line, and all is well before it. -/
theorem exists_split_of_run_stopped {l : Loading} {ts : List Text} {f : Fault} (hl : l.Alive)
    (h : (l.run ts).stage = .stopped f) :
    ∃ before t after, ts = before ++ t :: after ∧ (l.run before).Alive ∧
      ((l.run before).step t).stage = .stopped f := by
  induction ts generalizing l with
  | nil => exact absurd h (hl f)
  | cons t ts ih =>
    by_cases ht : (l.step t).Alive
    · obtain ⟨before, u, after, rfl, hb, hu⟩ := ih ht h
      exact ⟨t :: before, u, after, rfl, hb, hu⟩
    · obtain ⟨f', hf'⟩ : ∃ f', (l.step t).stage = .stopped f' := by
        simpa [Alive] using ht
      -- the fault of this line is the one that is still there in the end
      have hsame : (l.run (t :: ts)).stage = .stopped f' := stage_run_of_stopped hf' ts
      rw [h] at hsame
      exact ⟨[], t, ts, rfl, hl, by rw [run_nil, hf', hsame]⟩

lemma Alive.step_nil {l : Loading} (h : l.Alive) : (l.step []).Alive := by
  rw [Loading.step_nil]
  exact h

lemma alive_ofSource_nil : (ofSource []).Alive := by
  unfold ofSource
  rw [Text.lines_nil]
  exact alive_start.step_nil

lemma Alive.ofSource_append_newline {s : Text} (h : (ofSource s).Alive) :
    (ofSource (s ++ ['\n'])).Alive := by
  unfold ofSource at h ⊢
  rw [Text.lines_append_newline, run_append, Text.lines_nil]
  exact h.step_nil

/-! ### Results -/

lemma result_of_stopped {l : Loading} {f : Fault} (h : l.stage = .stopped f) :
    l.result = .error f := by
  simp only [result, h]; rfl

/-- A fault that names a line is never about the end of the input. -/
lemma stopped_of_result {l : Loading} {e : ScriptError} {n : Int}
    (h : l.result = .error (.script e)) (hn : e.line = some n) :
    l.stage = .stopped (.script e) := by
  unfold result at h
  split at h
  · cases h
  · cases h
    cases hn
  · rename_i f hf
    rw [hf, Except.error.inj h]

/-- A complete text leaves the loading between two scripts. -/
lemma stage_of_result_ok {l : Loading} {k : Catalog} (h : l.result = .ok k) :
    l.stage = .between ∧ l.catalog = k := by
  unfold result at h
  split at h
  · rename_i hs
    exact ⟨hs, Except.ok.inj h⟩
  · cases h
  · cases h

lemma result_of_alive {l : Loading} (h : l.Alive) :
    (∃ k, l.result = .ok k) ∨ ∃ marker, l.result = .error (.unterminated marker) := by
  unfold result
  split
  · exact .inl ⟨_, rfl⟩
  · exact .inr ⟨_, rfl⟩
  · rename_i f hf
    exact absurd hf (h f)

end Loading

namespace Catalog

/-- **The first fault decides.** When a text fails to load on a line, that is one of its lines;
every text with the same lines up to it fails in the same way, and the lines before it load or
lack an end marker. -/
theorem load_first_fault {s : Text} {e : ScriptError} {n : Int}
    (h : load s = .error (.script e)) (hn : e.line = some n) :
    (1 ≤ n ∧ n ≤ (Text.lines s).length) ∧
    (∀ s', (Text.lines s').take n.toNat = (Text.lines s).take n.toNat →
      load s' = .error (.script e)) ∧
    ∀ s', s' = Text.firstLines (n.toNat - 1) s ∨ s' = Text.firstLines (n.toNat - 1) s ++ ['\n'] →
      (∃ k, load s' = .ok k) ∨ ∃ marker, load s' = .error (.unterminated marker) := by
  have hstop := Loading.stopped_of_result h hn
  obtain ⟨before, t, after, hs, hb, ht⟩ :=
    Loading.exists_split_of_run_stopped Loading.alive_start hstop
  have hline : n = before.length + 1 := by
    rw [Loading.line_of_step_stopped hb ht hn, Loading.line_run]
    exact Int.add_comm 1 _
  have hnat : n.toNat = before.length + 1 := by omega
  refine ⟨?_, ?_, ?_⟩
  · rw [hs, List.length_append, List.length_cons]
    omega
  · -- the lines up to the fault stop the loading, and nothing goes on after that
    intro s' hs'
    have htake : (Text.lines s').take n.toNat = before ++ [t] := by
      rw [hs', hs, hnat, List.take_length_add_append]
      rfl
    have hrun : (Loading.start.run (before ++ [t])).stage = .stopped (.script e) := by
      rw [Loading.run_append]
      exact ht
    apply Loading.result_of_stopped
    unfold Loading.ofSource
    rw [← List.take_append_drop n.toNat (Text.lines s'), htake, Loading.run_append]
    exact Loading.stage_run_of_stopped hrun _
  · -- the text before the fault leaves the loading alive, and so does a line break after it
    have halive : (Loading.ofSource (Text.firstLines (n.toNat - 1) s)).Alive := by
      rw [hnat, Nat.add_sub_cancel]
      by_cases hne : before.length = 0
      · rw [hne, Text.firstLines_zero]
        exact Loading.alive_ofSource_nil
      · unfold Loading.ofSource
        rw [Text.lines_firstLines hne, hs, List.take_left]
        exact hb
    rintro s' (rfl | rfl)
    · exact Loading.result_of_alive halive
    · exact Loading.result_of_alive halive.ofSource_append_newline

/-- A menu has no place on a page, whatever comes after it. -/
theorem load_menu_on_page :
    load "Intro\n//PAGESSTART\n//MENU 1\n//WAIT".toList =
      .error (.script ⟨.misplaced, some "MENU".toList, some 3⟩) ∧
    ((∃ k, load (Text.firstLines 2 "Intro\n//PAGESSTART\n//MENU 1\n//END".toList) = .ok k) ∨
      ∃ marker, load (Text.firstLines 2 "Intro\n//PAGESSTART\n//MENU 1\n//END".toList) =
        .error (.unterminated marker)) := by
  have h : load "Intro\n//PAGESSTART\n//MENU 1\n//END".toList =
      .error (.script ⟨.misplaced, some "MENU".toList, some 3⟩) := by decide +kernel
  obtain ⟨-, hsame, hbefore⟩ := load_first_fault h rfl
  exact ⟨hsame _ (by decide +kernel), hbefore _ (.inl rfl)⟩

end Catalog

end Cutscene
