import Cutscene.Proofs.Steps

/-!
Constructs inside a script, read one inside the other.

A body is fed one command after another, whatever construct it is in. It comes to the same to read a
construct by itself, from the position after the command that opens it, and to go on with the script
where the construct leaves off. For a message box that is before the command that closes it, which is
therefore read a second time.
-/

namespace Cutscene

/-! ### Positions -/

lemma Text.length_dropBlanks (t : Text) :
    (t.takeWhile isBlank).length + (dropBlanks t).length = t.length := by
  rw [← List.length_append, takeWhile_isBlank_append_dropBlanks]

lemma Command.ofLine?_dropBlanks (line : Int) (t : Text) :
    ofLine? line (Text.dropBlanks t) = ofLine? line t := by
  have htrim : Text.trim (Text.dropBlanks t) = Text.trim t := by
    simp only [Text.trim, Text.dropBlanks, List.dropWhile_idempotent]
  unfold ofLine? isCommand
  rw [htrim]

namespace Cursor

/-- Within a line, what is skipped leaves the next line where it is. -/
lemma nextLine_dropBlanks (current : Text) (below : List Text) (offset : Nat) (line : Int) :
    nextLine ⟨Text.dropBlanks current, below, offset + (current.takeWhile Text.isBlank).length,
      line⟩ = nextLine ⟨current, below, offset, line⟩ := by
  have hlength := Text.length_dropBlanks current
  cases below <;> simp only [nextLine, Cursor.mk.injEq, true_and, and_true] <;> omega

/-- Blanks that are skipped hold no command. -/
lemma upcoming_skipBlanks (c : Cursor) : c.skipBlanks.upcoming = c.upcoming := by
  obtain ⟨current, below, offset, line⟩ := c
  unfold skipBlanks
  fun_induction skipFrom current below offset line with
  | case1 current offset line next below hblank ih =>
    rw [ih, upcoming_eq_append ⟨current, next :: below, offset, line⟩,
      ← Command.ofLine?_dropBlanks, hblank]
    rfl
  | case2 current offset line below h =>
    rw [upcoming_eq_append, nextLine_dropBlanks, Command.ofLine?_dropBlanks]
    exact (upcoming_eq_append _).symm

lemma toEnd_skipBlanks (c : Cursor) : c.skipBlanks.toEnd = c.toEnd := by
  obtain ⟨current, below, offset, line⟩ := c
  unfold skipBlanks
  fun_induction skipFrom current below offset line with
  | case1 current offset line next below hblank ih => exact ih
  | case2 current offset line below h =>
    have hlength := Text.length_dropBlanks current
    unfold toEnd
    cases below with
    | nil => simp only [endFrom, Cursor.mk.injEq, true_and, and_true]; omega
    | cons next below =>
      simp only [endFrom]
      congr 1
      omega

lemma toEnd_toEnd (c : Cursor) : c.toEnd.toEnd = c.toEnd := by
  obtain ⟨current, below, offset, line⟩ := c
  unfold toEnd
  induction below generalizing current offset line with
  | nil => rfl
  | cons next below ih => exact ih _ _ _

end Cursor

/-! ### One outcome after the other -/

/-- Go on where the reading left off, with what came of it, unless it failed. -/
def Outcome.andThen {α β : Type} (o : Outcome α) (f : α → Cursor → Outcome β) : Outcome β :=
  match o.result with
  | .error e => ⟨.error e, o.cursor, o.log⟩
  | .ok a => (f a o.cursor).after o.log

lemma Outcome.map_andThen {α β γ : Type} (g : α → β) (o : Outcome α) (f : β → Cursor → Outcome γ) :
    (o.map g).andThen f = o.andThen fun a c => f (g a) c := by
  obtain ⟨_ | a, cursor, log⟩ := o <;> rfl

lemma Outcome.after_append {α : Type} (log more : Log) (o : Outcome α) :
    o.after (log ++ more) = (o.after more).after log := by
  simp [after]

lemma Outcome.after_andThen {α β : Type} (log : Log) (o : Outcome α) (f : α → Cursor → Outcome β) :
    (o.after log).andThen f = (o.andThen f).after log := by
  obtain ⟨_ | a, cursor, log'⟩ := o
  · rfl
  · simp [andThen, after]

namespace Script

/-- Read a script from some position on, with the actions so far. -/
def readFrom (actions : Script) (c : Cursor) : Outcome Script := body.read ⟨actions, .nothing⟩ c

lemma read_eq_readFrom (c : Cursor) : read c = readFrom [] c := rfl

/-- A message box in the middle of a script is read by itself; then the script goes on. -/
lemma run_box (actions : Script) (frame : BoxFrame) (ls : List Text) {here there : Cursor}
    (hahead : there.upcoming = here.upcoming) (hend : there.toEnd = here.toEnd) :
    body.run ⟨actions, .box frame ls⟩ here here.upcoming =
      (MessageBox.lines.run ls there there.upcoming).andThen fun lines c =>
        readFrom (actions ++ [.single (frame.withLines lines)]) c := by
  rw [hahead]
  -- by induction on the commands ahead; the two positions are one after the first of them
  induction h : here.upcoming generalizing ls here there with
  | nil =>
    have hrest : (readFrom (actions ++ [.single (frame.withLines ls)]) there.toEnd) =
        ⟨.error (.unterminated Keyword.scriptEnd.token), there.toEnd, []⟩ := by
      unfold readFrom Construct.read
      rw [Cursor.upcoming_toEnd, Construct.run, Cursor.toEnd_toEnd]
      rfl
    simp only [Construct.run, Outcome.andThen, MessageBox.lines, pure, Except.pure, hrest, ← hend]
    rfl
  | cons first ahead ih =>
    obtain ⟨cmd, next⟩ := first
    have hnext := Cursor.upcoming_of_cons h
    rcases hfeed : MessageBox.lines.feed ls cmd with ⟨ls' | ls' | ls' | e, log⟩
    · have hbody : body.feed ⟨actions, .box frame ls⟩ cmd =
          (.more ⟨actions, .box frame ls'⟩, log) := by
        simp only [body, Body.feed, Body.feedBox, show MessageBox.feed ls cmd = _ from hfeed]
      simp only [Construct.run, hbody, hfeed, Outcome.after_andThen]
      exact congrArg _ (ih ls' rfl rfl hnext)
    · exact absurd hfeed (MessageBox.feed_ne_done ls ls' cmd log)
    · -- the command is read again, as the first one after the box
      obtain ⟨after, hafter⟩ : ∃ b : Body,
          b = ⟨actions ++ [.single (frame.withLines ls')], .nothing⟩ := ⟨_, rfl⟩
      have hagain : readFrom (actions ++ [.single (frame.withLines ls')]) there =
          body.run after there ((cmd, next) :: ahead) := by
        rw [readFrom, Construct.read, hahead, h, hafter]
      have hbody : body.feed ⟨actions, .box frame ls⟩ cmd =
          ((body.feed after cmd).1, log ++ (body.feed after cmd).2) := by
        simp only [body, Body.feed, Body.feedBox, show MessageBox.feed ls cmd = _ from hfeed,
          hafter]
      simp only [Construct.run, hfeed, Outcome.andThen, hagain, hbody]
      rcases hplain : body.feed after cmd with ⟨b | s | s | e, more⟩
      · exact Outcome.after_append log more _
      · rfl
      · exact absurd hplain (Body.feed_ne_leave after cmd s more)
      · rfl
    · have hbody : body.feed ⟨actions, .box frame ls⟩ cmd = (.fail e, log) := by
        simp only [body, Body.feed, Body.feedBox, show MessageBox.feed ls cmd = _ from hfeed]
      simp only [Construct.run, hbody, hfeed]
      rfl

/-- So is a block of pages. -/
lemma run_pages (actions : Script) (p : OpenPages) {here there : Cursor}
    (hahead : there.upcoming = here.upcoming) (hend : there.toEnd = here.toEnd) :
    body.run ⟨actions, .pages p⟩ here here.upcoming =
      (Pages.block.run p there there.upcoming).andThen fun a c => readFrom (actions ++ [a]) c := by
  rw [hahead]
  induction h : here.upcoming generalizing p here there with
  | nil =>
    simp only [Construct.run, ← hend]
    rfl
  | cons first ahead ih =>
    obtain ⟨cmd, next⟩ := first
    have hnext := Cursor.upcoming_of_cons h
    rcases hfeed : Pages.block.feed p cmd with ⟨p' | a | a | e, log⟩
    · have hbody : body.feed ⟨actions, .pages p⟩ cmd = (.more ⟨actions, .pages p'⟩, log) := by
        simp only [body, Body.feed, Body.feedPages, show Pages.feed p cmd = _ from hfeed]
      simp only [Construct.run, hbody, hfeed, Outcome.after_andThen]
      exact congrArg _ (ih p' rfl rfl hnext)
    · have hbody : body.feed ⟨actions, .pages p⟩ cmd = (.more ⟨actions ++ [a], .nothing⟩, log) := by
        simp only [body, Body.feed, Body.feedPages, show Pages.feed p cmd = _ from hfeed]
        rfl
      simp only [Construct.run, hbody, hfeed, Outcome.andThen, readFrom, Construct.read, hnext]
    · exact absurd hfeed (Pages.feed_ne_leave p a cmd log)
    · have hbody : body.feed ⟨actions, .pages p⟩ cmd = (.fail e, log) := by
        simp only [body, Body.feed, Body.feedPages, show Pages.feed p cmd = _ from hfeed]
      simp only [Construct.run, hbody, hfeed]
      rfl

/-- The actions that a command and what belongs to it stand for, read from the position after it. -/
def readActions (cmd : Command) (next : Cursor) : Outcome Script :=
  match cmd.keyword? with
  | some .pages => (Pages.read next.skipBlanks).map fun a => [a]
  | some .menu => ⟨Body.menuActions <$> cmd.unread.int.1, next, []⟩
  | some .box => (MessageBox.read cmd next).map fun i => [.single i]
  | _ =>
    match cmd.instruction? with
    | .error e => ⟨.error e, next, []⟩
    | .ok none => ⟨.ok [], next, [cmd.ignored]⟩
    | .ok (some i) => ⟨.ok [.single i], next, []⟩

/-- **A script is read command by command**, with each construct read by itself where its command
stands, until the end marker comes. -/
theorem readFrom_eq (actions : Script) (c : Cursor) :
    readFrom actions c =
      match c.command? with
      | none => ⟨.error (.unterminated Keyword.scriptEnd.token), c.toEnd, []⟩
      | some (cmd, next) =>
        if cmd.keyword? = some .scriptEnd then ⟨.ok actions, next, []⟩
        else (readActions cmd next).andThen fun new c => readFrom (actions ++ new) c := by
  rcases hc : c.command? with _ | ⟨cmd, next⟩
  · unfold readFrom Construct.read
    rw [Cursor.upcoming_of_command?_eq_none hc]
    rfl
  · have hread : readFrom actions c =
        body.run ⟨actions, .nothing⟩ c ((cmd, next) :: next.upcoming) := by
      rw [readFrom, Construct.read, Cursor.upcoming_of_command? hc]
    have hfeed : body.feed ⟨actions, .nothing⟩ cmd = Body.feedPlain actions cmd := rfl
    have hskip := Cursor.upcoming_skipBlanks next
    have hend := Cursor.toEnd_skipBlanks next
    rw [hread]
    simp only [Construct.run, hfeed]
    unfold Body.feedPlain readActions
    rcases hk : cmd.keyword? with _ | k
    · rcases hi : cmd.instruction? with e | _ | i <;> rfl
    · cases k with
      | scriptEnd => rfl
      | pages =>
        simp only [reduceCtorEq, if_false, Outcome.map_andThen, Option.some.injEq]
        rw [run_pages actions Pages.empty hskip hend]
        rfl
      | menu => rcases hslot : cmd.unread.int.1 with e | slot <;> rfl
      | box =>
        rcases hframe : (Take.boxFrame.runOn cmd.unread).1 with e | frame
        · simp only [MessageBox.read, hframe]
          rfl
        · simp only [MessageBox.read, hframe, reduceCtorEq, if_false, Outcome.map_andThen, Option.some.injEq]
          rw [run_box actions frame [] hskip hend]
          rfl
      | _ => rcases hi : cmd.instruction? with e | _ | i <;> rfl

end Script

end Cutscene
