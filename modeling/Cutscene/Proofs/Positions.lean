import Cutscene.Proofs.Delivery
import Cutscene.Reading.Session

/-!
A cursor knows where it is.

Its offset and its line number are kept apart, and each reader moves both. They always agree: the
line is one more than the line breaks before the offset, after whatever was asked of the cursor and
wherever a failure left it. So every command carries the number of the line it stands on.
-/

namespace Cutscene

/-- The command stands on a line of the text, or on the end of one, and carries the line's
number. -/
def Command.NumberedIn (s : Text) (cmd : Command) : Prop :=
  ∃ before t after, s = before ++ (t ++ after) ∧ '\n' ∉ t ∧ (∀ ch ∈ after.head?, ch = '\n') ∧
    cmd.StandsOn t ∧ cmd.line = 1 + before.count '\n'

namespace Cursor

/-- The cursor is at a place of the text, has the lines from there on, and knows its line. -/
structure IsAt (s : Text) (c : Cursor) : Prop where
  offset_le : c.offset ≤ s.length
  line_eq : c.line = 1 + (s.take c.offset).count '\n'
  lines_eq : c.lines = Text.lines (s.drop c.offset)

variable {s : Text} {c d : Cursor}

lemma isAt_start (s : Text) : (start s).IsAt s := by
  obtain ⟨current, below, hlines⟩ := List.exists_cons_of_ne_nil (Text.lines_ne_nil s)
  have hstart : start s = ⟨current, below, 0, 1⟩ := by
    rw [start, seek, List.drop_zero, hlines, onLines]
  rw [hstart]
  exact ⟨Nat.zero_le _, rfl, hlines.symm⟩

/-- **A cursor that moves over some text** is at its place again if it counts the characters and
the line breaks. -/
lemma IsAt.further (h : c.IsAt s) {passed rest : Text} (hsplit : s.drop c.offset = passed ++ rest)
    (hoffset : d.offset = c.offset + passed.length) (hline : d.line = c.line + passed.count '\n')
    (hlines : d.lines = Text.lines rest) : d.IsAt s := by
  have hlength := congrArg List.length hsplit
  rw [List.length_drop, List.length_append] at hlength
  have hle := h.offset_le
  have htake : s.take d.offset = s.take c.offset ++ passed := by
    rw [hoffset, List.take_add, hsplit, List.take_left]
  have hdrop : s.drop d.offset = rest := by
    rw [hoffset, ← List.drop_drop, hsplit, List.drop_left]
  refine ⟨by omega, ?_, by rw [hlines, hdrop]⟩
  rw [hline, h.line_eq, htake, List.count_append]
  push_cast
  omega

/-- What is left of the text starts with what is left of the line. -/
lemma IsAt.exists_drop (h : c.IsAt s) :
    ∃ after, s.drop c.offset = c.current ++ after ∧ '\n' ∉ c.current ∧
      ∀ ch ∈ after.head?, ch = '\n' := by
  obtain ⟨current, below, offset, line⟩ := c
  have hlines : Text.lines (s.drop offset) = current :: below := h.lines_eq.symm
  have hfresh : '\n' ∉ current := Text.newline_not_mem_of_mem_lines (hlines ▸ List.mem_cons_self)
  cases below with
  | nil =>
    exact ⟨[], (drop_of_lines_singleton hlines).trans (List.append_nil _).symm, hfresh, by simp⟩
  | cons next below => exact ⟨_, (drop_of_lines hlines).1, hfresh, by simp⟩

/-! ### Readers -/

lemma IsAt.nextLine (h : c.IsAt s) : c.nextLine.IsAt s := by
  obtain ⟨-, -, hfresh, -⟩ := h.exists_drop
  obtain ⟨current, below, offset, line⟩ := c
  have hlines : Text.lines (s.drop offset) = current :: below := h.lines_eq.symm
  have hcount : current.count '\n' = 0 := List.count_eq_zero.mpr hfresh
  cases below with
  | nil =>
    have hsplit : s.drop offset = current ++ [] :=
      (drop_of_lines_singleton hlines).trans (List.append_nil _).symm
    exact h.further hsplit rfl (by simp [Cursor.nextLine, hcount]) Text.lines_nil.symm
  | cons next below =>
    obtain ⟨hdrop, hrest⟩ := drop_of_lines hlines
    have hsplit : s.drop offset = (current ++ ['\n']) ++ s.drop (offset + current.length + 1) := by
      rw [hdrop, List.append_assoc]
      rfl
    refine h.further hsplit ?_ ?_ hrest.symm
    · simp only [Cursor.nextLine, List.length_append, List.length_singleton, Nat.add_assoc]
    · simp [Cursor.nextLine, List.count_append, hcount]

/-- A cursor may also move within its line. -/
lemma IsAt.within {current rest passed : Text} {below : List Text} {offset : Nat} {line : Int}
    (h : IsAt s ⟨current, below, offset, line⟩) (hcurrent : passed ++ rest = current) :
    IsAt s ⟨rest, below, offset + passed.length, line⟩ := by
  subst hcurrent
  obtain ⟨hsplit, hrest, hfresh⟩ := Text.lines_cut h.lines_eq.symm
  refine h.further hsplit rfl ?_ hrest.symm
  simp [List.count_eq_zero.mpr hfresh]

lemma IsAt.toEnd (h : c.IsAt s) : c.toEnd.IsAt s := by
  obtain ⟨current, below, offset, line⟩ := c
  unfold toEnd
  induction below generalizing current offset line with
  | nil => exact h.nextLine
  | cons next below ih => exact ih next _ _ h.nextLine

lemma IsAt.skipBlanks (h : c.IsAt s) : c.skipBlanks.IsAt s := by
  obtain ⟨current, below, offset, line⟩ := c
  unfold skipBlanks
  fun_induction skipFrom current below offset line with
  | case1 current offset line next below hblank ih => exact ih h.nextLine
  | case2 current offset line below hne =>
    exact h.within (Text.takeWhile_isBlank_append_dropBlanks current)

lemma IsAt.word (h : c.IsAt s) : c.word.2.IsAt s :=
  h.skipBlanks.within (Text.word_append_afterWord _)

/-! ### Commands and constructs -/

/-- The command on the line, if there is one, carries its number. -/
lemma IsAt.numberedIn {cmd : Command} (h : c.IsAt s)
    (hcmd : Command.ofLine? c.line c.current = some cmd) : cmd.NumberedIn s := by
  obtain ⟨after, hdrop, hfresh, hafter⟩ := h.exists_drop
  refine ⟨s.take c.offset, c.current, after, ?_, hfresh, hafter,
    Command.standsOn_of_ofLine? hcmd, ?_⟩
  · rw [← hdrop, List.take_append_drop]
  · rw [Command.line_of_ofLine? hcmd, h.line_eq]

/-- The commands ahead are numbered, and the places after them are places of the text. -/
lemma IsAt.upcoming (h : c.IsAt s) : ∀ p ∈ c.upcoming, p.1.NumberedIn s ∧ p.2.IsAt s := by
  -- a command ahead is on this line, or ahead of the next one
  have hline {c : Cursor} (h : c.IsAt s)
      (hbelow : ∀ p ∈ c.nextLine.upcoming, p.1.NumberedIn s ∧ p.2.IsAt s) :
      ∀ p ∈ c.upcoming, p.1.NumberedIn s ∧ p.2.IsAt s := by
    rw [upcoming_eq_append, List.forall_mem_append]
    refine ⟨fun p hp => ?_, hbelow⟩
    obtain ⟨cmd, hcmd, rfl⟩ := List.mem_map.mp hp
    exact ⟨h.numberedIn (Option.mem_toList.mp hcmd), h.nextLine⟩
  obtain ⟨current, below, offset, line⟩ := c
  induction below generalizing current offset line with
  | nil => exact hline h (by rintro p ⟨⟩)
  | cons next below ih => exact hline h (ih next _ _ h.nextLine)

lemma IsAt.command? {cmd : Command} (h : c.IsAt s) (hcommand : c.command? = some (cmd, d)) :
    cmd.NumberedIn s ∧ d.IsAt s :=
  h.upcoming (cmd, d) (upcoming_of_command? hcommand ▸ List.mem_cons_self)

lemma IsAt.commands (h : c.IsAt s) : ∀ cmd ∈ c.commands, cmd.NumberedIn s := by
  rintro _ hcmd
  obtain ⟨p, hp, rfl⟩ := List.mem_map.mp hcmd
  exact (h.upcoming p hp).1

/-- **A construct** leaves the cursor at its place, whether it is complete or not. -/
lemma IsAt.read {σ α : Type} (k : Construct σ α) (st : σ) (h : c.IsAt s) :
    (k.read st c).cursor.IsAt s := by
  unfold Construct.read
  induction hc : c.upcoming generalizing st c with
  | nil => exact h.toEnd
  | cons first ahead ih =>
    obtain ⟨cmd, next⟩ := first
    have hnext : next.IsAt s := (h.upcoming (cmd, next) (hc ▸ List.mem_cons_self)).2
    simp only [Construct.run]
    rcases k.feed st cmd with ⟨st' | a | a | e, log⟩
    · exact ih st' hnext (upcoming_of_cons hc)
    · exact hnext
    · exact h
    · exact hnext

lemma IsAt.readBox (opening : Command) (h : c.IsAt s) :
    (MessageBox.read opening c).cursor.IsAt s := by
  unfold MessageBox.read
  split
  · exact h
  · exact h.skipBlanks.read MessageBox.lines []

/-- A stream leaves the cursor at its place, also when it runs out of commands. -/
lemma IsAt.next (t : CommandStream) (h : c.IsAt s) : (t.next c).2.2.IsAt s := by
  unfold CommandStream.next
  split
  · exact h
  · split
    · exact h.toEnd
    · rename_i hcommand
      split <;> exact (h.command? hcommand).2

end Cursor

lemma CommandStream.mem_commands_of_next {t : CommandStream} {c : Cursor} {cmd : Command}
    (h : (t.next c).1 = .ok (some cmd)) : cmd ∈ c.commands := by
  unfold next at h
  split at h
  · cases h
  · split at h
    · cases h
    · rename_i hcommand
      split at h <;> cases h
      exact Cursor.commands_of_command? hcommand ▸ List.mem_cons_self

/-! ### Sessions -/

namespace Session

/-- The commands that an answer tells of. -/
def Answer.told : Answer → List Command
  | .command cmd | .instruction cmd _ => [cmd]
  | .commands cmds => cmds
  | _ => []

/-- The sessions with a text that some requests lead to. The cursor goes back to bookmarks only, and
not to an offset with any line that one likes. -/
inductive Reached (s : Text) : Session → Prop
  | start : Reached s (ofSource s)
  | perform {t : Session} (h : Reached s t) (r : Request)
      (tracked : ∀ offset line, r ≠ .goTo offset line) : Reached s (t.perform r).2
  /-- A message box may be read with any command as the one that opens it. -/
  | box {t : Session} (h : Reached s t) (opening : Command) :
      Reached s { t with cursor := (MessageBox.read opening t.cursor).cursor }

/-- All places that a session knows are places of its text. -/
structure Tracks (s : Text) (t : Session) : Prop where
  cursor : t.cursor.IsAt s
  bookmarks : ∀ p ∈ t.bookmarks, p.2.IsAt s

variable {s : Text} {t : Session}

lemma Tracks.moved (h : t.Tracks s) (a : Answer) {c : Cursor} (hc : c.IsAt s) :
    (t.moved a c).2.Tracks s := ⟨hc, h.bookmarks⟩

lemma Tracks.came {α : Type} {o : Outcome α} (h : t.Tracks s) (ho : o.cursor.IsAt s)
    (answer : α → Answer) : (t.came o answer).2.Tracks s := by
  unfold Session.came
  split <;> exact h.moved _ ho

lemma Tracks.withCommand {k : Command → Cursor → Answer × Session} (h : t.Tracks s)
    (hk : ∀ cmd c, c.IsAt s → (k cmd c).2.Tracks s) : (t.withCommand k).2.Tracks s := by
  unfold Session.withCommand
  split
  · exact h.moved _ h.cursor.toEnd
  · rename_i hcommand
    exact hk _ _ (h.cursor.command? hcommand).2

/-- **One request** leaves the session at a place of its text. -/
lemma Tracks.perform (h : t.Tracks s) {r : Request} (hr : ∀ offset line, r ≠ .goTo offset line) :
    (t.perform r).2.Tracks s := by
  cases r with
  | atEnd => exact h
  | openStream slot marker => exact ⟨h.cursor, h.bookmarks⟩
  | skipBlanks => exact h.moved _ h.cursor.skipBlanks
  | word => exact h.moved _ h.cursor.word
  | line =>
    simp only [Session.perform, Cursor.line?]
    split
    · exact h
    · rename_i hline
      split at hline <;> cases hline
      exact h.moved _ h.cursor.nextLine
  | keep slot => exact ⟨h.cursor, List.forall_mem_cons.mpr ⟨h.cursor, h.bookmarks⟩⟩
  | back slot =>
    refine h.moved _ ?_
    rcases hslot : t.bookmarks.lookup slot with _ | c
    · exact h.cursor
    · obtain ⟨before, after, hkept, -⟩ := List.lookup_eq_some_iff.mp hslot
      exact h.bookmarks (slot, c) (by rw [hkept]; simp)
  | goTo offset line => exact absurd rfl (hr offset line)
  | command => exact h.withCommand fun cmd c hc => h.moved _ hc
  | instruction =>
    refine h.withCommand fun cmd c hc => ?_
    split <;> exact h.moved _ hc
  | commands marker => exact h.came (h.cursor.read _ _) _
  | next slot =>
    simp only [Session.perform]
    split
    · exact h
    · rename_i stream _
      have hnext := h.cursor.next stream
      split <;> exact ⟨hnext, h.bookmarks⟩
  | boxLines => exact h.came (h.cursor.read _ _) _
  | box => exact h.withCommand fun cmd c hc => h.came (hc.readBox cmd) _
  | pages => exact h.came (h.cursor.read _ _) _
  | script => exact h.came (h.cursor.read _ _) _

lemma Reached.tracks (h : Reached s t) : t.Tracks s := by
  induction h with
  | start => exact ⟨Cursor.isAt_start s, by rintro p ⟨⟩⟩
  | perform h r hr ih => exact ih.perform hr
  | box h opening ih => exact ⟨ih.cursor.readBox opening, ih.bookmarks⟩

/-- What is read up to a marker are commands ahead. -/
lemma mem_of_run_commands {marker : Text} {cs ds : List Command} {ahead : List (Command × Cursor)}
    {c : Cursor} (h : ((Construct.commands marker).run cs c ahead).result = .ok ds) :
    ∀ cmd ∈ ds, cmd ∈ cs ++ ahead.map Prod.fst := by
  induction ahead generalizing cs c with
  | nil => cases h
  | cons first ahead ih =>
    obtain ⟨cmd, next⟩ := first
    by_cases hmarker : cmd.token = marker
    · simp only [Construct.run, Construct.commands, if_pos hmarker] at h
      cases h
      exact fun _ => List.mem_append_left _
    · simp only [Construct.run, Construct.commands, if_neg hmarker] at h
      have := ih h
      simpa [List.append_assoc] using this

lemma told_came {α : Type} {o : Outcome α} {answer : α → Answer} {cmd : Command}
    (h : cmd ∈ (t.came o answer).1.told) : ∃ a, o.result = .ok a ∧ cmd ∈ (answer a).told := by
  unfold Session.came at h
  split at h
  · exact ⟨_, ‹_›, h⟩
  · cases h

lemma told_withCommand {k : Command → Cursor → Answer × Session} {cmd : Command}
    (h : cmd ∈ (t.withCommand k).1.told) :
    ∃ first ∈ t.cursor.commands, ∃ after, cmd ∈ (k first after).1.told := by
  unfold Session.withCommand at h
  split at h
  · cases h
  · rename_i first after hcommand
    exact ⟨first, Cursor.commands_of_command? hcommand ▸ List.mem_cons_self, after, h⟩

/-- **What a session tells of** are commands ahead of it. -/
lemma mem_commands_of_told {r : Request} {cmd : Command} (h : cmd ∈ (t.perform r).1.told) :
    cmd ∈ t.cursor.commands := by
  cases r with
  | command =>
    obtain ⟨first, hfirst, after, hcmd⟩ := told_withCommand h
    obtain rfl := List.mem_singleton.mp hcmd
    exact hfirst
  | instruction =>
    obtain ⟨first, hfirst, after, hcmd⟩ := told_withCommand h
    split at hcmd
    · obtain rfl := List.mem_singleton.mp hcmd
      exact hfirst
    · cases hcmd
  | commands marker =>
    obtain ⟨cs, hresult, hcmd⟩ := told_came h
    exact mem_of_run_commands hresult cmd hcmd
  | next slot =>
    simp only [Session.perform] at h
    split at h
    · cases h
    · rename_i stream _
      split at h
      · cases h
      · rename_i c hnext
        obtain rfl := List.mem_singleton.mp h
        exact CommandStream.mem_commands_of_next hnext
      · cases h
  | boxLines | pages | script =>
    obtain ⟨a, -, hcmd⟩ := told_came h
    cases hcmd
  | box =>
    obtain ⟨first, -, after, hcmd⟩ := told_withCommand h
    obtain ⟨a, -, hcmd⟩ := told_came hcmd
    cases hcmd
  | line =>
    simp only [Session.perform] at h
    split at h <;> cases h
  | atEnd | skipBlanks | word | keep | back | goTo | openStream => cases h

/-- **The line number is always true.** Take a cursor at the start of a text and ask anything of it,
in any order: to skip blanks, to read words, lines and commands, to take commands from streams that
are open, to read message boxes, pages and scripts, to keep its place and to go back to a place that
was kept. Whether or not the requests succeed, the offset stays within the text, and the line is
one more than the line breaks before it; what is left to read are the lines of the text from there
on. Every command ahead, and so every command that a request gives out, stands on a line of the text
and carries one more than the line breaks before that line. -/
theorem line_number_true (s : Text) (t : Session) (h : Reached s t) :
    t.cursor.offset ≤ s.length ∧ t.cursor.line = 1 + (s.take t.cursor.offset).count '\n' ∧
      t.cursor.lines = Text.lines (s.drop t.cursor.offset) ∧
      (∀ cmd ∈ t.cursor.commands, cmd.NumberedIn s) ∧
      ∀ r, ∀ cmd ∈ (t.perform r).1.told, cmd.NumberedIn s := by
  obtain ⟨hcursor, -⟩ := h.tracks
  exact ⟨hcursor.offset_le, hcursor.line_eq, hcursor.lines_eq, hcursor.commands,
    fun r cmd hcmd => hcursor.commands cmd (mem_commands_of_told hcmd)⟩

/-- A script fails in the middle of a block of pages, and a command is read after it. -/
theorem line_number_true_after_fault :
    let s := "A\n//PAGESSTART\n//MENU 1\n\t//Z 2".toList
    let t := ((ofSource s).perform .script).2
    (∃ e, (Script.read (Cursor.start s)).result = .error e) ∧ t.cursor.offset = 24 ∧
      t.cursor.line = 4 ∧ (⟨"Z".toList, " 2".toList, 4⟩ : Command).NumberedIn s := by
  intro s t
  have hreached : Reached s t := .perform .start .script (by simp)
  obtain ⟨-, hline, -, -, htold⟩ := line_number_true s t hreached
  have hoffset : t.cursor.offset = 24 := by decide +kernel
  have hcommand : (t.perform .command).1.told = [⟨"Z".toList, " 2".toList, 4⟩] := by
    decide +kernel
  refine ⟨⟨.script ⟨.misplaced, some "MENU".toList, some 3⟩, by decide +kernel⟩, hoffset, ?_, ?_⟩
  · rw [hline, hoffset]
    decide +kernel
  · exact htold .command _ (hcommand ▸ List.mem_singleton_self _)

end Session

end Cutscene
