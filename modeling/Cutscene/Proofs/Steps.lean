import Cutscene.Proofs.Commands
import Cutscene.Proofs.Instructions

/-!
What a body makes of a command, case by case.

A command goes to the open construct, or finds the body outside of any; an open message box gives
way to a command that is not part of it. A script that can be read is a sequence of such steps, with
the end marker after them. Facts about bodies are proved by cases on the steps and never look into
the reading functions again.
-/

namespace Cutscene

/-- The command is a line of a message box. -/
def Command.InBox (c : Command) : Prop := c.keyword? = some .boxText ∨ c.keyword? = some .boxBlank

/-- A message box is never complete with a command, only before one. -/
lemma MessageBox.feed_ne_done (lines ls : List Text) (c : Command) (log : Log) :
    feed lines c ≠ (.done ls, log) := by
  intro h
  unfold feed at h
  split at h
  · split at h <;> cases h
  · cases h
  · cases h

/-- A block of pages never ends before a command, only with its end marker. -/
lemma Pages.feed_ne_leave (p : OpenPages) (a : Action) (c : Command) (log : Log) :
    feed p c ≠ (.leave a, log) := by
  intro h
  unfold feed at h
  split at h
  · cases h
  · cases h
  · rcases hi : c.instruction? with e | _ | i <;> rw [hi] at h <;> cases h

namespace Body

/-! ### The steps -/

/-- The command finds the actions of a body outside of any construct. If a box was open it is an
action now, and its end is noted. -/
inductive Outside (c : Command) : Body → Script → Log → Prop
  | nothing (actions : Script) : Outside c ⟨actions, .nothing⟩ actions []
  | box (actions : Script) (frame : BoxFrame) (lines : List Text) (foreign : ¬ c.InBox) :
      Outside c ⟨actions, .box frame lines⟩ (actions ++ [.single (frame.withLines lines)])
        [.boxEnds c.token c.line]

/-- The command takes the first body to the second one. -/
inductive Step (c : Command) : Body → Body → Log → Prop
  | boxText {actions : Script} {frame : BoxFrame} {lines : List Text}
      (hk : c.keyword? = some .boxText) (text : c.unread.text.1 ≠ []) :
      Step c ⟨actions, .box frame lines⟩
        ⟨actions, .box frame (lines ++ [Text.trimEnd c.unread.text.1])⟩ []
  | boxBlank {actions : Script} {frame : BoxFrame} {lines : List Text}
      (hk : c.keyword? = some .boxBlank) :
      Step c ⟨actions, .box frame lines⟩ ⟨actions, .box frame (lines ++ [[]])⟩ []
  | pagesEnd {actions : Script} {p : OpenPages} (hk : c.keyword? = some .pagesEnd) :
      Step c ⟨actions, .pages p⟩ (add actions [.ofPagesAndLast p.closed p.current]) []
  | page {actions : Script} {p : OpenPages} (hk : c.keyword? = some .page) :
      Step c ⟨actions, .pages p⟩ ⟨actions, .pages ⟨p.closed ++ [p.current], []⟩⟩ []
  | onPage {actions : Script} {p : OpenPages} {i : Instruction}
      (hi : c.instruction? = .ok (some i)) :
      Step c ⟨actions, .pages p⟩
        ⟨actions, .pages { p with current := p.current ++ [.single i] }⟩ []
  | ignoredOnPage {actions : Script} {p : OpenPages} (hk : c.keyword? = none) :
      Step c ⟨actions, .pages p⟩ ⟨actions, .pages p⟩ [c.ignored]
  | pages {b : Body} {actions : Script} {log : Log} (h : Outside c b actions log)
      (hk : c.keyword? = some .pages) : Step c b ⟨actions, .pages Pages.empty⟩ log
  | box {b : Body} {actions : Script} {log : Log} {frame : BoxFrame} (h : Outside c b actions log)
      (hk : c.keyword? = some .box) (hframe : (Take.boxFrame.runOn c.unread).1 = .ok frame) :
      Step c b ⟨actions, .box frame []⟩ log
  | menu {b : Body} {actions : Script} {log : Log} {slot : Int} (h : Outside c b actions log)
      (hk : c.keyword? = some .menu) (hslot : c.unread.int.1 = .ok slot) :
      Step c b (add actions (menuActions slot)) log
  | oneLine {b : Body} {actions : Script} {log : Log} {i : Instruction}
      (h : Outside c b actions log) (hi : c.instruction? = .ok (some i)) :
      Step c b (add actions [.single i]) log
  | ignored {b : Body} {actions : Script} {log : Log} (h : Outside c b actions log)
      (hk : c.keyword? = none) : Step c b (add actions []) (log ++ [c.ignored])

/-! ### Every reply is a step -/

variable {c : Command} {b b' : Body} {s : Script} {log : Log}

lemma step_of_feedPlain {actions : Script} {before : Log} (h : Outside c b actions before)
    (hfeed : feedPlain actions c = (.more b', log)) : Step c b b' (before ++ log) := by
  unfold feedPlain at hfeed
  split at hfeed
  · cases hfeed
  · rename_i hk
    cases hfeed
    rw [List.append_nil]
    exact .pages h hk
  · rename_i hk
    split at hfeed
    · cases hfeed
    · rename_i slot hslot
      cases hfeed
      rw [List.append_nil]
      exact .menu h hk hslot
  · rename_i hk
    split at hfeed
    · cases hfeed
    · rename_i frame hframe
      cases hfeed
      rw [List.append_nil]
      exact .box h hk hframe
  · rcases hi : c.instruction? with e | _ | i <;> rw [hi] at hfeed <;> cases hfeed
    · exact .ignored h (Command.keyword?_of_instruction?_none hi)
    · rw [List.append_nil]
      exact .oneLine h hi

lemma scriptEnd_of_feedPlain {actions : Script} (hfeed : feedPlain actions c = (.done s, log)) :
    c.keyword? = some .scriptEnd ∧ s = actions ∧ log = [] := by
  unfold feedPlain at hfeed
  split at hfeed
  · rename_i hk
    cases hfeed
    exact ⟨hk, rfl, rfl⟩
  · cases hfeed
  · split at hfeed <;> cases hfeed
  · split at hfeed <;> cases hfeed
  · rcases hi : c.instruction? with e | _ | i <;> rw [hi] at hfeed <;> cases hfeed

/-- The command finds a body in a message box to be what it is without the box. -/
lemma outside_of_leave {actions : Script} {frame : BoxFrame} {lines ls : List Text} {before : Log}
    (h : MessageBox.feed lines c = (.leave ls, before)) :
    Outside c ⟨actions, .box frame lines⟩ (actions ++ [.single (frame.withLines ls)]) before := by
  unfold MessageBox.feed at h
  split at h
  · split at h <;> cases h
  · cases h
  · rename_i htext hblank
    cases h
    exact .box actions frame lines fun hbox => hbox.elim htext hblank

lemma step_of_feedBox {actions : Script} {frame : BoxFrame} {lines : List Text}
    (h : feedBox actions frame lines c = (.more b', log)) :
    Step c ⟨actions, .box frame lines⟩ b' log := by
  unfold feedBox at h
  rcases hbox : MessageBox.feed lines c with ⟨ls | ls | ls | e, before⟩ <;> rw [hbox] at h
  · cases h
    unfold MessageBox.feed at hbox
    split at hbox
    · rename_i hk
      split at hbox
      · cases hbox
      · rename_i htext
        cases hbox
        exact .boxText hk htext
    · rename_i hk
      cases hbox
      exact .boxBlank hk
    · cases hbox
  · exact absurd hbox (MessageBox.feed_ne_done lines ls c before)
  · rcases hplain : feedPlain (actions ++ [.single (frame.withLines ls)]) c with ⟨reply, more⟩
    simp only [hplain] at h
    cases h
    exact step_of_feedPlain (outside_of_leave hbox) hplain
  · cases h

lemma step_of_feedPages {actions : Script} {p : OpenPages}
    (h : feedPages actions p c = (.more b', log)) : Step c ⟨actions, .pages p⟩ b' log := by
  unfold feedPages at h
  rcases hpages : Pages.feed p c with ⟨q | a | a | e, before⟩ <;> rw [hpages] at h
  · cases h
    unfold Pages.feed at hpages
    split at hpages
    · cases hpages
    · rename_i hk
      cases hpages
      exact .page hk
    · rcases hi : c.instruction? with e | _ | i <;> rw [hi] at hpages <;> cases hpages
      · exact .ignoredOnPage (Command.keyword?_of_instruction?_none hi)
      · exact .onPage hi
  · cases h
    unfold Pages.feed at hpages
    split at hpages
    · rename_i hk
      cases hpages
      exact .pagesEnd hk
    · cases hpages
    · rcases hi : c.instruction? with e | _ | i <;> rw [hi] at hpages <;> cases hpages
  · exact absurd hpages (Pages.feed_ne_leave p a c before)
  · cases h

/-- **A body that goes on** takes one of the steps. -/
theorem step_of_feed (h : b.feed c = (.more b', log)) : Step c b b' log := by
  obtain ⟨actions, inside⟩ := b
  cases inside with
  | nothing => exact step_of_feedPlain (.nothing actions) h
  | box frame lines => exact step_of_feedBox h
  | pages p => exact step_of_feedPages h

/-- **A body is complete** with the end marker of the script, outside of pages. -/
theorem ends_of_feed (h : b.feed c = (.done s, log)) :
    c.keyword? = some .scriptEnd ∧ Outside c b s log := by
  obtain ⟨actions, inside⟩ := b
  cases inside with
  | nothing =>
    obtain ⟨hk, rfl, rfl⟩ := scriptEnd_of_feedPlain h
    exact ⟨hk, .nothing s⟩
  | box frame lines =>
    simp only [feed, feedBox] at h
    rcases hbox : MessageBox.feed lines c with ⟨ls | ls | ls | e, before⟩ <;> rw [hbox] at h
    · cases h
    · cases h
    · rcases hplain : feedPlain (actions ++ [.single (frame.withLines ls)]) c with ⟨reply, more⟩
      simp only [hplain] at h
      cases h
      obtain ⟨hk, rfl, rfl⟩ := scriptEnd_of_feedPlain hplain
      rw [List.append_nil]
      exact ⟨hk, outside_of_leave hbox⟩
    · cases h
  | pages p =>
    simp only [feed, feedPages] at h
    rcases hpages : Pages.feed p c with ⟨q | a | a | e, before⟩ <;> rw [hpages] at h <;> cases h

/-- A body never ends before a command. -/
lemma feed_ne_leave (b : Body) (c : Command) (s : Script) (log : Log) :
    b.feed c ≠ (.leave s, log) := by
  have hplain (actions : Script) : (feedPlain actions c).1 ≠ .leave s := by
    intro h
    unfold feedPlain at h
    split at h
    · cases h
    · cases h
    · split at h <;> cases h
    · split at h <;> cases h
    · rcases hi : c.instruction? with e | _ | i <;> rw [hi] at h <;> cases h
  intro h
  obtain ⟨actions, inside⟩ := b
  cases inside with
  | nothing => exact hplain actions (congrArg Prod.fst h)
  | box frame lines =>
    simp only [feed, feedBox] at h
    rcases hbox : MessageBox.feed lines c with ⟨ls | ls | ls | e, before⟩ <;> rw [hbox] at h
    · cases h
    · cases h
    · exact hplain _ (congrArg Prod.fst h)
    · cases h
  | pages p =>
    simp only [feed, feedPages] at h
    rcases hpages : Pages.feed p c with ⟨q | a | a | e, before⟩ <;> rw [hpages] at h <;> cases h

/-! ### Whole scripts -/

/-- The commands, of which the last one ends the script, make the script of the body. -/
inductive Completes : List Command → Body → Script → Log → Prop
  | scriptEnd {c : Command} {b : Body} {s : Script} {log : Log}
      (hk : c.keyword? = some .scriptEnd) (h : Outside c b s log) : Completes [c] b s log
  | step {c : Command} {cs : List Command} {b b' : Body} {s : Script} {log log' : Log}
      (first : Step c b b' log) (rest : Completes cs b' s log') :
      Completes (c :: cs) b s (log ++ log')

/-- **A body that can be read to its end** is completed by the commands that were ahead and are not
ahead any more. -/
theorem completes_of_read {c : Cursor} (h : (Script.body.read b c).result = .ok s) :
    ∃ cs, c.commands = cs ++ (Script.body.read b c).cursor.commands ∧
      Completes cs b s (Script.body.read b c).log := by
  unfold Construct.read Cursor.commands at *
  -- by induction on the commands ahead; the body is another one after each
  induction hc : c.upcoming generalizing b c with
  | nil =>
    rw [hc] at h
    cases h
  | cons first ahead ih =>
    obtain ⟨cmd, next⟩ := first
    have hnext := Cursor.upcoming_of_cons hc
    rw [hc] at h
    rw [List.map_cons]
    rcases hfeed : Script.body.feed b cmd with ⟨b' | a | a | e, log⟩ <;>
      simp only [Construct.run, hfeed] at h ⊢
    · rw [← hnext] at h
      obtain ⟨cs, hcs, hcompletes⟩ := ih h hnext
      exact ⟨cmd :: cs, congrArg _ hcs, .step (step_of_feed hfeed) hcompletes⟩
    · cases h
      obtain ⟨hk, hout⟩ := ends_of_feed hfeed
      exact ⟨[cmd], by rw [hnext]; rfl, .scriptEnd hk hout⟩
    · exact absurd hfeed (feed_ne_leave b cmd a log)
    · cases h

end Body

end Cutscene
