import Cutscene.Proofs.Location

/-!
An unterminated text is one that can be completed.

A loading that has stopped stays as it is, whatever is added to the text. One that is in the middle
of a script when the text ends has accepted all of it: the marker that it misses can be added, and
then the end marker of the script, and everything is loaded.
-/

namespace Cutscene

/-! ### End markers -/

namespace Body

variable {b : Body} {c : Command}

/-- The end marker of a script completes a body that is not in a block of pages. -/
lemma feed_scriptEnd (hk : c.keyword? = some .scriptEnd) (h : ¬ b.InPages) :
    ∃ s log, b.feed c = (.done s, log) := by
  obtain ⟨actions, inside⟩ := b
  cases inside with
  | nothing => exact ⟨actions, [], by simp only [feed, feedPlain, hk]⟩
  | box frame lines =>
    -- the marker is no line of the box, so the box is complete before it
    exact ⟨_, _, by simp only [feed, feedBox, MessageBox.feed, feedPlain, hk]; rfl⟩
  | pages p => exact absurd (inPages_pages actions p) h

/-- The end marker of pages takes a body out of them. -/
lemma feed_pagesEnd (hk : c.keyword? = some .pagesEnd) (h : b.InPages) :
    ∃ b' log, b.feed c = (.more b', log) ∧ ¬ b'.InPages := by
  obtain ⟨actions, inside⟩ := b
  obtain ⟨p, rfl⟩ := h
  exact ⟨_, _, by simp only [feed, feedPages, Pages.feed, hk]; rfl, not_inPages_add actions _⟩

end Body

/-! ### Faults -/

/-- No error about a command is about the end of the input. -/
lemma ErrorKind.Concerns.ne_unterminated {pagesOpen : Prop} {kind : ErrorKind} {k : Keyword}
    (h : kind.Concerns pagesOpen k) : kind ≠ .unterminated := by
  cases h <;> simp

lemma Fault.CausedBy.ne_unterminated {pagesOpen : Prop} {c : Command} {e : ScriptError}
    (h : CausedBy pagesOpen c (.script e)) : e.kind ≠ .unterminated := by
  rcases h with ⟨cause, k, -, he, hkind⟩ | ⟨d, -, -, -, hd⟩
  · cases he
    exact hkind.ne_unterminated
  · cases hd

namespace Loading

variable {l : Loading} {name : Text} {b : Body}

/-- A line stops a loading with a fault about the command on it. -/
lemma causedBy_of_step {t : Text} {f : Fault} (hl : l.Alive) (h : (l.step t).stage = .stopped f) :
    ∃ pagesOpen c, f.CausedBy pagesOpen c := by
  unfold step at h
  split at h
  · rename_i f' hstage
    exact absurd hstage (hl f')
  · obtain ⟨c, -, hfeed⟩ := stopped_of_bodyLine h
    exact ⟨_, c, Body.feed_fault hfeed⟩
  · dsimp only at h
    split at h
    · cases h
    · obtain ⟨c, -, hfeed⟩ := stopped_of_bodyLine h
      exact ⟨_, c, Body.feed_fault hfeed⟩

/-- A loading that has stopped did not do so for lack of input. -/
lemma ne_unterminated_of_stopped {ts : List Text} {e : ScriptError}
    (h : (start.run ts).stage = .stopped (.script e)) : e.kind ≠ .unterminated := by
  obtain ⟨before, t, after, -, halive, ht⟩ := exists_split_of_run_stopped alive_start h
  obtain ⟨pagesOpen, c, hcause⟩ := causedBy_of_step halive ht
  exact hcause.ne_unterminated

/-- A fault is about the end of the input when the text ends in a script, and only then. -/
lemma inside_or_stopped_of_result {f : Fault} (h : l.result = .error f) :
    (∃ name b, l.stage = .inside name b ∧ f = .unterminated b.missing.token) ∨
      l.stage = .stopped f := by
  unfold result at h
  split at h
  · cases h
  · rename_i name b hstage
    cases h
    exact .inl ⟨name, b, hstage, rfl⟩
  · rename_i f' hstage
    cases h
    exact .inr hstage

/-! ### Completing a script -/

variable {b' : Body} {c : Command} {s : Script} {t : Text} {log : Log}

lemma step_of_more (h : l.stage = .inside name b) (hc : Command.ofLine? l.line t = some c)
    (hfeed : b.feed c = (.more b', log)) : l.step t = l.goOn (.inside name b') log := by
  simp only [step, h, bodyLine, hc, hfeed]

lemma step_of_done (h : l.stage = .inside name b) (hc : Command.ofLine? l.line t = some c)
    (hfeed : b.feed c = (.done s, log)) : l.step t = l.complete name s log := by
  simp only [step, h, bodyLine, hc, hfeed]

lemma between_of_scriptEnd (h : l.stage = .inside name b) (hb : ¬ b.InPages) :
    (l.step "//END".toList).stage = .between := by
  obtain ⟨s, log, hfeed⟩ := Body.feed_scriptEnd (c := ⟨"END".toList, [], l.line⟩) rfl hb
  rw [step_of_done h rfl hfeed]
  rfl

lemma inside_of_pagesEnd (h : l.stage = .inside name b) (hb : b.InPages) :
    ∃ b', (l.step "//PAGESEND".toList).stage = .inside name b' ∧ ¬ b'.InPages := by
  obtain ⟨b', log, hfeed, hb'⟩ := Body.feed_pagesEnd (c := ⟨"PAGESEND".toList, [], l.line⟩) rfl hb
  refine ⟨b', ?_, hb'⟩
  rw [step_of_more h rfl hfeed]
  rfl

lemma result_of_between (h : l.stage = .between) : l.result = .ok l.catalog := by
  simp only [result, h]
  rfl

end Loading

namespace Catalog

lemma load_append_lines (s : Text) {t : Text} {ts : List Text} (ht : Text.lines t = ts) :
    load (s ++ '\n' :: t) = ((Loading.ofSource s).run ts).result := by
  rw [load, Loading.ofSource, Text.lines_append_newline, Loading.run_append, ht]
  rfl

/-- A text that ends in a script outside of pages lacks the end marker of the script. -/
lemma load_scriptEnd {s name : Text} {b : Body}
    (h : (Loading.ofSource s).stage = .inside name b) (hb : ¬ b.InPages) :
    ∃ k, load (s ++ "\n//END\n".toList) = .ok k := by
  have hlines : Text.lines "//END\n".toList = ["//END".toList, []] := by decide
  have hstage := Loading.between_of_scriptEnd h hb
  refine ⟨((Loading.ofSource s).run ["//END".toList, []]).catalog, ?_⟩
  rw [show "\n//END\n".toList = '\n' :: "//END\n".toList from rfl, load_append_lines s hlines]
  refine Loading.result_of_between ?_
  rw [Loading.run_cons, Loading.run_cons, Loading.run_nil, Loading.step_nil]
  exact hstage

/-- A text that ends in pages lacks their end marker too. -/
lemma load_pagesEnd {s name : Text} {b : Body}
    (h : (Loading.ofSource s).stage = .inside name b) (hb : b.InPages) :
    ∃ k, load (s ++ "\n//PAGESEND\n//END\n".toList) = .ok k := by
  obtain ⟨b', hstage, hb'⟩ := Loading.inside_of_pagesEnd h hb
  have hlines : Text.lines "//PAGESEND".toList = ["//PAGESEND".toList] := by decide
  have hclosed : (Loading.ofSource (s ++ '\n' :: "//PAGESEND".toList)).stage = .inside name b' := by
    rw [Loading.ofSource, Text.lines_append_newline, hlines, Loading.run_append]
    exact hstage
  have htext : s ++ "\n//PAGESEND\n//END\n".toList =
      (s ++ '\n' :: "//PAGESEND".toList) ++ "\n//END\n".toList := by
    rw [List.append_assoc]
    rfl
  rw [htext]
  exact load_scriptEnd hclosed hb'

/-- A text that has failed before its end fails whatever stands below. -/
lemma load_append_of_stopped {s : Text} {f : Fault} (h : (Loading.ofSource s).stage = .stopped f)
    (t : Text) : load (s ++ '\n' :: t) = .error f := by
  rw [load_append_lines s rfl]
  exact Loading.result_of_stopped (Loading.stage_run_of_stopped h _)

/-- **What is missing can be added, and nothing else helps.** If a text is unterminated, then it
loads with the missing markers below. If a fault names a line, or is of any other kind, then the
text fails in the same way whatever stands below. -/
theorem load_completed (s : Text) :
    (∀ e, load s = .error (.script e) → e.kind = .unterminated →
      (e.command = some Keyword.scriptEnd.token ∧ ∃ k, load (s ++ "\n//END\n".toList) = .ok k) ∨
      (e.command = some Keyword.pagesEnd.token ∧
        ∃ k, load (s ++ "\n//PAGESEND\n//END\n".toList) = .ok k)) ∧
    (∀ e n, load s = .error (.script e) → e.line = some n →
      ∀ t, load (s ++ '\n' :: t) = .error (.script e)) ∧
    ∀ f, load s = .error f →
      ((∃ e, f = .script e ∧ e.kind = .unterminated) ↔ ∃ t k, load (s ++ '\n' :: t) = .ok k) := by
  have hunterminated : ∀ e, load s = .error (.script e) → e.kind = .unterminated →
      (e.command = some Keyword.scriptEnd.token ∧ ∃ k, load (s ++ "\n//END\n".toList) = .ok k) ∨
      (e.command = some Keyword.pagesEnd.token ∧
        ∃ k, load (s ++ "\n//PAGESEND\n//END\n".toList) = .ok k) := by
    intro e he hkind
    rcases Loading.inside_or_stopped_of_result he with ⟨name, b, hstage, hf⟩ | hstop
    · cases hf
      rcases b.missing_eq with ⟨hmissing, hb⟩ | ⟨hmissing, hb⟩ <;> rw [hmissing]
      · exact .inr ⟨rfl, load_pagesEnd hstage hb⟩
      · exact .inl ⟨rfl, load_scriptEnd hstage hb⟩
    · exact absurd hkind (Loading.ne_unterminated_of_stopped hstop)
  refine ⟨hunterminated, fun e n he hn t => ?_, fun f hf => ⟨?_, ?_⟩⟩
  · exact load_append_of_stopped (Loading.stopped_of_result he hn) t
  · rintro ⟨e, rfl, hkind⟩
    rcases hunterminated e hf hkind with ⟨-, k, hk⟩ | ⟨-, k, hk⟩
    · exact ⟨"//END\n".toList, k, hk⟩
    · exact ⟨"//PAGESEND\n//END\n".toList, k, hk⟩
  · rintro ⟨t, k, hk⟩
    rcases Loading.inside_or_stopped_of_result hf with ⟨name, b, -, rfl⟩ | hstop
    · exact ⟨_, rfl, rfl⟩
    · rw [load_append_of_stopped hstop t] at hk
      cases hk

/-- A text that ends in pages, and one that is beyond help. -/
theorem load_completed_pages :
    (∃ k, load ("A\n//PAGESSTART\n//WAIT".toList ++ "\n//PAGESEND\n//END\n".toList) = .ok k) ∧
    load ("A\n//PAGESSTART\n//MENU 1".toList ++ '\n' :: "//PAGESEND\n//END\n".toList) =
      .error (.script ⟨.misplaced, some "MENU".toList, some 3⟩) := by
  have hopen : load "A\n//PAGESSTART\n//WAIT".toList =
      .error (.unterminated Keyword.pagesEnd.token) := by
    decide +kernel
  have hfaulty : load "A\n//PAGESSTART\n//MENU 1".toList =
      .error (.script ⟨.misplaced, some "MENU".toList, some 3⟩) := by
    decide +kernel
  obtain ⟨hcompleted, -, -⟩ := load_completed "A\n//PAGESSTART\n//WAIT".toList
  obtain ⟨-, hsame, -⟩ := load_completed "A\n//PAGESSTART\n//MENU 1".toList
  refine ⟨?_, hsame _ 3 hfaulty rfl _⟩
  rcases hcompleted _ hopen rfl with ⟨hend, -⟩ | ⟨-, h⟩
  · exact absurd hend (by decide)
  · exact h

end Catalog

end Cutscene
