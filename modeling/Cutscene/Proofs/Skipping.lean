import Cutscene.Proofs.Positions

/-!
Blanks before a command.

Blanks are skipped one character after the other, over the ends of lines, and skipping may end in
the middle of a line. A command is looked for one line after the other. So a line of which nothing
but blanks is left holds no command, and on any other line the blanks at its start do not count.
-/

namespace Cutscene

namespace Cursor

/-- **Skipping is counting.** The cursor passes all blanks ahead of it and the line breaks among
them. -/
lemma skipFrom_eq_seek {s current : Text} {below : List Text} {offset : Nat} {line : Int}
    (h : Text.lines (s.drop offset) = current :: below) :
    skipFrom current below offset line =
      seek s (offset + ((s.drop offset).takeWhile Text.isBlank).length)
        (line + ((s.drop offset).takeWhile Text.isBlank).count '\n') := by
  fun_induction skipFrom current below offset line with
  | case1 current offset line next below hblank ih =>
    obtain ⟨hsplit, hrest⟩ := drop_of_lines h
    have hall : ∀ c ∈ current, Text.isBlank c = true := List.dropWhile_eq_nil_iff.mp hblank
    have hfresh : '\n' ∉ current := Text.newline_not_mem_of_mem_lines (h ▸ List.mem_cons_self)
    have hblanks : (s.drop offset).takeWhile Text.isBlank =
        current ++ '\n' :: (s.drop (offset + current.length + 1)).takeWhile Text.isBlank := by
      rw [hsplit, List.takeWhile_append_of_pos hall, List.takeWhile_cons_of_pos rfl]
    rw [ih hrest, hblanks, List.length_append, List.length_cons, List.count_append,
      List.count_cons_self, List.count_eq_zero.mpr hfresh]
    congr 1
    · omega
    · push_cast
      omega
  | case2 current offset line below hends =>
    rw [← Text.takeWhile_isBlank_append_dropBlanks current] at h
    obtain ⟨hsplit, hrest, hfresh⟩ := Text.lines_cut h
    have hvisible : ∀ c ∈ (['\n'].intercalate (Text.dropBlanks current :: below)).head?,
        Text.isBlank c = false := by
      -- if there is nothing but blanks on the line, then it is the last one
      rcases hdrop : Text.dropBlanks current with _ | ⟨c, t⟩
      · cases below with
        | nil => simp
        | cons next below => exact (hends next below rfl hdrop).elim
      · have hc : Text.isBlank c = false := Text.head?_dropWhile (t := current) c (by
          rw [show current.dropWhile Text.isBlank = c :: t from hdrop]
          rfl)
        cases below <;> simpa [List.intercalate_cons_cons] using hc
    have hblanks : (s.drop offset).takeWhile Text.isBlank = current.takeWhile Text.isBlank := by
      rw [hsplit]
      exact Text.takeWhile_append (fun c hc => List.mem_takeWhile_imp hc) hvisible
    rw [hblanks, List.count_eq_zero.mpr hfresh, seek, ← List.drop_drop, hsplit, List.drop_left,
      hrest]
    simp [onLines]

lemma skipBlanks_seek (s : Text) (o : Nat) (line : Int) :
    (seek s o line).skipBlanks = seek s (o + ((s.drop o).takeWhile Text.isBlank).length)
      (line + ((s.drop o).takeWhile Text.isBlank).count '\n') := by
  obtain ⟨current, below, hlines⟩ := List.exists_cons_of_ne_nil (Text.lines_ne_nil (s.drop o))
  rw [← skipFrom_eq_seek hlines, seek, hlines]
  rfl

lemma command?_skipBlanks (c : Cursor) : c.skipBlanks.command? = c.command? := by
  rw [command?_eq_head?, upcoming_skipBlanks, command?_eq_head?]

end Cursor

/-- **Blanks before a command do not count.** From any offset of a text, in the middle of a line as
well, and with any number for the line, skip blanks first: the offset grows by the blanks that come
next, and the line number by the line breaks among them. The command that is then read is the one
that is read without skipping, with the same token, the same unread arguments and the same number,
and the cursor is in the same place and on the same line after it; if there is none, then there is
none either way, and the cursor is in the same place at the end. This also holds of a session, with
all that it keeps besides. -/
theorem Session.command_after_blanks :
    (∀ (s : Text) (o : Nat) (line : Int),
      let start := Cursor.seek s o line
      let blanks := (s.drop o).takeWhile Text.isBlank
      start.skipBlanks = Cursor.seek s (o + blanks.length) (line + blanks.count '\n') ∧
      start.skipBlanks.command? = start.command? ∧ start.skipBlanks.toEnd = start.toEnd) ∧
    ∀ s : Session, (s.perform .skipBlanks).2.perform .command = s.perform .command := by
  constructor
  · intro s o line start blanks
    exact ⟨Cursor.skipBlanks_seek s o line, start.command?_skipBlanks, start.toEnd_skipBlanks⟩
  · intro s
    have hcommand := s.cursor.command?_skipBlanks
    have hend := s.cursor.toEnd_skipBlanks
    simp only [perform, moved, withCommand, hcommand, hend]

/-- Skipping starts in the middle of a line and stops in the middle of another one, which is no
command. -/
example :
    let start := Cursor.seek "/ \n\t\n /A\n//Z 1".toList 1 1
    start.skipBlanks = ⟨"/A".toList, ["//Z 1".toList], 6, 3⟩ ∧
      start.command? = some (⟨"Z".toList, " 1".toList, 4⟩, ⟨[], [], 14, 4⟩) := by
  decide +kernel

end Cutscene
