import Cutscene.Proofs.Conservation

/-!
A message box takes the commands that are its own and leaves the others.

To find its end it has to read one command too many, and puts it back. What it puts back is ahead
again as it was, on the same line and with all of its arguments, whatever prose stands around it. So
the commands ahead of a position fall into two parts: those of the box, and those after it.
-/

namespace Cutscene

namespace Command

/-- The command is a line of text in a message box, and its text is missing. -/
def LacksText (c : Command) : Prop := c.keyword? = some .boxText ∧ c.unread.text.1 = []

instance (c : Command) : Decidable c.LacksText := inferInstanceAs (Decidable (_ ∧ _))

/-- The line that a command adds to a message box. Only a line of text has something on it. -/
def boxLine (c : Command) : Text :=
  if c.keyword? = some .boxText then Text.trimEnd c.unread.text.1 else []

end Command

/-- The commands at the start of those ahead that belong to a message box. -/
def Cursor.boxPart (c : Cursor) : List Command := c.commands.takeWhile (·.InBox)

namespace MessageBox

/-! ### One command -/

variable {cmd : Command}

lemma feed_of_lacksText (h : cmd.LacksText) (ls : List Text) :
    feed ls cmd = (.fail (cmd.fault .emptyText), []) := by
  simp only [feed, h.1, h.2]

lemma feed_of_inBox (hin : cmd.InBox) (h : ¬ cmd.LacksText) (ls : List Text) :
    feed ls cmd = (.more (ls ++ [cmd.boxLine]), []) := by
  rcases hin with hk | hk
  · have htext : cmd.unread.text.1 ≠ [] := fun hnil => h ⟨hk, hnil⟩
    obtain ⟨x, t, ht⟩ := List.exists_cons_of_ne_nil htext
    simp only [feed, Command.boxLine, hk, ht, if_true]
  · simp [feed, Command.boxLine, hk]

lemma feed_of_not_inBox (h : ¬ cmd.InBox) (ls : List Text) :
    feed ls cmd = (.leave ls, [.boxEnds cmd.token cmd.line]) := by
  unfold feed
  split
  · rename_i hk
    exact absurd (.inl hk) h
  · rename_i hk
    exact absurd (.inr hk) h
  · rfl

/-! ### All of them -/

lemma boxPart_of_inBox {c next : Cursor} (h : c.command? = some (cmd, next)) (hin : cmd.InBox) :
    c.boxPart = cmd :: next.boxPart := by
  rw [Cursor.boxPart, Cursor.commands_of_command? h]
  exact List.takeWhile_cons_of_pos (by simpa using hin)

lemma boxPart_of_not_inBox {c next : Cursor} (h : c.command? = some (cmd, next))
    (hin : ¬ cmd.InBox) : c.boxPart = [] := by
  rw [Cursor.boxPart, Cursor.commands_of_command? h]
  exact List.takeWhile_cons_of_neg (by simpa using hin)

/-- What reading the lines of a box comes to, after some lines, told from the commands ahead. -/
inductive Takes (c : Cursor) (ls : List Text) (o : Outcome (List Text)) : Prop
  | corrupt {bad : Command} (first : c.boxPart.find? (·.LacksText) = some bad)
      (result : o.result = .error (bad.fault .emptyText))
  | whole (filled : ∀ cmd ∈ c.boxPart, ¬ cmd.LacksText)
      (result : o.result = .ok (ls ++ c.boxPart.map Command.boxLine))
      (rest : o.cursor.upcoming = c.upcoming.drop c.boxPart.length)

/-- One more command of the box, before all others. -/
lemma Takes.cons {c next : Cursor} {ls : List Text} {o : Outcome (List Text)}
    (h : c.command? = some (cmd, next)) (hin : cmd.InBox) (hlacks : ¬ cmd.LacksText)
    (ho : Takes next (ls ++ [cmd.boxLine]) o) : Takes c ls (o.after []) := by
  have hpart := boxPart_of_inBox h hin
  cases ho with
  | corrupt first result =>
    refine .corrupt ?_ result
    rw [hpart, List.find?_cons_of_neg (by simpa using hlacks), first]
  | whole filled result rest =>
    refine .whole ?_ ?_ ?_
    · rw [hpart]
      exact List.forall_mem_cons.mpr ⟨hlacks, filled⟩
    · rw [List.append_assoc] at result
      rw [hpart]
      exact result
    · rw [hpart, Cursor.upcoming_of_command? h]
      exact rest

lemma takes_run (ls : List Text) (c : Cursor) : Takes c ls (lines.run ls c c.upcoming) := by
  -- by induction on the commands ahead, of which the box ends before the first foreign one
  induction hc : c.upcoming generalizing ls c with
  | nil =>
    have hpart : c.boxPart = [] := by
      rw [Cursor.boxPart, Cursor.commands, hc]
      rfl
    refine .whole (by simp [hpart]) ?_ ?_
    · rw [hpart, List.map_nil, List.append_nil]
      rfl
    · rw [hc, List.drop_nil]
      exact c.upcoming_toEnd
  | cons first ahead ih =>
    obtain ⟨cmd, next⟩ := first
    have hnext := Cursor.upcoming_of_cons hc
    have hcommand := Cursor.command?_of_upcoming hc
    have hfeed : lines.feed ls cmd = feed ls cmd := rfl
    by_cases hin : cmd.InBox
    · by_cases hlacks : cmd.LacksText
      · simp only [Construct.run, hfeed, feed_of_lacksText hlacks]
        refine .corrupt ?_ rfl
        rw [boxPart_of_inBox hcommand hin, List.find?_cons_of_pos (by simpa using hlacks)]
      · simp only [Construct.run, hfeed, feed_of_inBox hin hlacks]
        exact (ih _ next hnext).cons hcommand hin hlacks
    · have hpart := boxPart_of_not_inBox hcommand hin
      simp only [Construct.run, hfeed, feed_of_not_inBox hin]
      refine .whole (by simp [hpart]) ?_ ?_
      · rw [hpart, List.map_nil, List.append_nil]
      · rw [hpart]
        rfl

/-- The commands of the box and those after it are all that were ahead. -/
lemma boxPart_append_commands {c d : Cursor} (h : d.upcoming = c.upcoming.drop c.boxPart.length) :
    c.boxPart ++ d.commands = c.commands := by
  have hcommands : d.commands = c.commands.drop c.boxPart.length := by
    rw [Cursor.commands, h, List.map_drop, Cursor.commands]
  have hprefix : c.boxPart <+: c.commands := List.takeWhile_prefix _
  obtain ⟨rest, hrest⟩ := hprefix
  rw [hcommands, ← hrest, List.drop_left]

/-- **A message box takes what is its own.** Of the commands ahead of a position, consider all at
the start that belong to a box. If one of them is a line of text without its text, then reading the
box fails with an error about the first such line. Otherwise every one of them is a line of the box,
in their order, and when the box is read exactly the others are ahead: each on its line, with all of
its arguments, and with the same position after it as if no box had been read. -/
theorem readLines_takes_own (c : Cursor) :
    (∃ bad, c.boxPart.find? (·.LacksText) = some bad ∧ (readLines c).result =
      .error (.script ⟨.emptyText, some Keyword.boxText.token, some bad.line⟩)) ∨
    ((∀ cmd ∈ c.boxPart, ¬ cmd.LacksText) ∧
      (readLines c).result = .ok (c.boxPart.map Command.boxLine) ∧
      c.boxPart ++ (readLines c).cursor.commands = c.commands ∧
      (readLines c).cursor.upcoming = c.upcoming.drop c.boxPart.length) := by
  cases takes_run [] c with
  | @corrupt bad first result =>
    obtain ⟨hkeyword, -⟩ : bad.LacksText := by simpa using List.find?_some first
    refine .inl ⟨bad, first, result.trans ?_⟩
    rw [Command.fault, Command.keyword?_eq_some_iff.mp hkeyword]
  | whole filled result rest =>
    exact .inr ⟨filled, result, boxPart_append_commands rest, rest⟩

/-- A box is read from the middle of a line, with prose in it and before the command after it. -/
example : (readLines
    (Cursor.seek "x //CWTEXT  a b\nor\n\n //SKLINE\n-\n//WAIT 5".toList 1 7)).result =
    .ok [" a b".toList, []] := by
  decide +kernel

end MessageBox

end Cutscene
