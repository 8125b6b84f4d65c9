import Cutscene.Proofs.Fields
import Cutscene.Proofs.Insertion
import Cutscene.Proofs.LookAhead

/-!
Blank lines in message boxes.

A blank line has a command of its own, and a line of text without its text is an error. But a text
is called missing before the blanks at its end are taken away. What stands at the end of a command's
line can be seen, so a text is all blank only where a carriage return cuts it off from something
that can be seen, and there it makes a blank line too.
-/

namespace Cutscene

namespace Command

/-- The command is a line of text in a message box, and without the blanks at its end nothing is
left of the text. -/
def HasBlankText (c : Command) : Prop :=
  c.keyword? = some .boxText ∧ Text.trimEnd c.unread.text.1 = []

instance (c : Command) : Decidable c.HasBlankText := inferInstanceAs (Decidable (_ ∧ _))

/-- Behind the separating character, blanks come first and then a carriage return. -/
inductive CutOff : Text → Prop
  | intro {separator : Char} {blanks rest : Text} (ne_nil : blanks ≠ [])
      (blank : ∀ x ∈ blanks, Text.isBlank x = true) (noReturn : '\r' ∉ blanks) :
      CutOff (separator :: (blanks ++ '\r' :: rest))

variable {c : Command} {line : Int} {t : Text}

/-- The arguments of a command end with what can be seen. -/
lemma getLast?_arguments (h : ofLine? line t = some c) :
    ∀ x ∈ c.arguments.getLast?, Text.isBlank x = false := by
  intro x hx
  obtain ⟨n, gap, -, -, htrim⟩ := (standsOn_of_ofLine? h).written
  have hne : c.arguments ≠ [] := by
    intro hnil
    rw [hnil] at hx
    cases hx
  have hlast : (Text.trim t).getLast? = c.arguments.getLast? := by
    rw [htrim, List.getLast?_append_of_ne_nil _ (by simp [hne]),
      List.getLast?_append_of_ne_nil _ (by simp [hne]), List.getLast?_append_of_ne_nil _ hne]
  exact Text.getLast?_trimEnd _ x (hlast ▸ hx)

lemma text_of_keyword? {k : Keyword} (h : c.keyword? = some k) :
    c.unread.text.1 = c.arguments.payload := by
  rw [unread_of_keyword? h, Arguments.text_ofText]

lemma payload_of_cutOff {u : Text} (h : CutOff u) :
    u.payload ≠ [] ∧ Text.trimEnd u.payload = [] := by
  obtain ⟨hne, hblank, hreturn⟩ := h
  rename_i separator blanks rest
  have hpayload : Text.payload (separator :: (blanks ++ '\r' :: rest)) = blanks := by
    refine Text.takeWhile_append (fun x hx => ?_) (by simp)
    have hx : x ≠ '\r' := by
      rintro rfl
      exact hreturn hx
    simpa using hx
  rw [hpayload]
  exact ⟨hne, Text.trimEnd_eq_nil_iff.mpr hblank⟩

/-- A text that is all blank, where what can be seen comes later, is cut off. -/
lemma cutOff_of_payload {u : Text} (hlast : ∀ x ∈ u.getLast?, Text.isBlank x = false)
    (hne : u.payload ≠ []) (hblank : Text.trimEnd u.payload = []) : CutOff u := by
  obtain _ | ⟨separator, v⟩ := u
  · exact absurd rfl hne
  have hblanks : ∀ x ∈ v.takeWhile (· ≠ '\r'), Text.isBlank x = true :=
    Text.trimEnd_eq_nil_iff.mp hblank
  have hsplit : v.takeWhile (· ≠ '\r') ++ v.dropWhile (· ≠ '\r') = v :=
    List.takeWhile_append_dropWhile
  have hreturn : '\r' ∉ v.takeWhile (· ≠ '\r') := by
    intro hx
    simpa using List.mem_takeWhile_imp hx
  rcases hrest : v.dropWhile (· ≠ '\r') with _ | ⟨x, rest⟩
  · -- without a carriage return, the text would go on to what can be seen
    rw [hrest, List.append_nil] at hsplit
    have hv : v ≠ [] := by
      rintro rfl
      exact hne rfl
    have hend : v.getLast hv ∈ (separator :: v).getLast? := by
      rw [List.getLast?_cons_of_ne_nil hv, List.getLast?_eq_some_getLast hv]
      rfl
    have hvisible := hlast _ hend
    rw [hblanks _ (hsplit.symm ▸ List.getLast_mem hv)] at hvisible
    cases hvisible
  · have hhead : x ∈ (v.dropWhile (· ≠ '\r')).head? := by rw [hrest]; rfl
    have hx : x = '\r' := by simpa using Text.head?_dropWhile x hhead
    rw [← hsplit, hrest, hx]
    exact .intro hne hblanks hreturn

/-- **A blank text** of a command on a line is missing, or it is cut off. -/
lemma hasBlankText_iff (h : ofLine? line t = some c) :
    c.HasBlankText ↔ c.LacksText ∨ (c.keyword? = some .boxText ∧ CutOff c.arguments) := by
  constructor
  · rintro ⟨hk, hblank⟩
    by_cases hnil : c.unread.text.1 = []
    · exact .inl ⟨hk, hnil⟩
    · rw [text_of_keyword? hk] at hnil hblank
      exact .inr ⟨hk, cutOff_of_payload (getLast?_arguments h) hnil hblank⟩
  · rintro (⟨hk, hnil⟩ | ⟨hk, hcut⟩)
    · exact ⟨hk, by rw [hnil]; rfl⟩
    · refine ⟨hk, ?_⟩
      rw [text_of_keyword? hk]
      exact (payload_of_cutOff hcut).2

lemma not_lacksText_of_cutOff (h : CutOff c.arguments) : ¬ c.LacksText := by
  rintro ⟨hk, hnil⟩
  rw [text_of_keyword? hk] at hnil
  exact (payload_of_cutOff h).1 hnil

/-- The commands ahead of a position stand on lines. -/
lemma exists_line_of_mem_onLines {ts : List Text} (h : c ∈ onLines line ts) :
    ∃ n t, ofLine? n t = some c := by
  induction ts generalizing line with
  | nil => cases h
  | cons t ts ih =>
    obtain h | h := List.mem_append.mp h
    · exact ⟨line, t, Option.mem_toList.mp h⟩
    · exact ih h

end Command

namespace MessageBox

variable {c : Cursor}

lemma exists_line_of_mem_boxPart {cmd : Command} (h : cmd ∈ c.boxPart) :
    ∃ n t, Command.ofLine? n t = some cmd := by
  have hmem : cmd ∈ c.commands := (List.takeWhile_prefix _).subset h
  rw [Cursor.commands_eq_onLines] at hmem
  exact Command.exists_line_of_mem_onLines hmem

/-- The blank lines that some commands add to a box. -/
lemma count_boxLine (cs : List Command) (h : ∀ cmd ∈ cs, cmd.InBox) :
    (cs.map Command.boxLine).count [] =
      cs.countP (·.keyword? = some .boxBlank) + cs.countP (·.HasBlankText) := by
  induction cs with
  | nil => rfl
  | cons cmd cs ih =>
    obtain ⟨hin, hcs⟩ := List.forall_mem_cons.mp h
    have ih := ih hcs
    rw [List.map_cons, List.count_cons, List.countP_cons, List.countP_cons, ih]
    obtain hk | hk := hin
    · simp [Command.boxLine, Command.HasBlankText, hk]
      omega
    · simp [Command.boxLine, Command.HasBlankText, hk]
      omega

/-- **Where blank lines come from.** When a box can be read, each of its blank lines comes from the
command for a blank line, or from a line of text that is blank up to a carriage return; the commands
that it takes are those of the box, and no others. A line of text that is blank in any other way is
an error, like that of the first line without its text. -/
theorem readLines_blank_lines (c : Cursor) :
    (∀ ls, (readLines c).result = .ok ls →
      c.boxPart ++ (readLines c).cursor.commands = c.commands ∧
      ls.count [] = c.boxPart.countP (·.keyword? = some .boxBlank) +
        c.boxPart.countP (·.HasBlankText) ∧
      ∀ cmd ∈ c.boxPart, cmd.HasBlankText → Command.CutOff cmd.arguments) ∧
    (∀ cmd ∈ c.boxPart, cmd.HasBlankText → ¬ Command.CutOff cmd.arguments →
      ∃ bad ∈ c.boxPart, bad.LacksText ∧ (readLines c).result = .error (bad.fault .emptyText)) ∧
    ∀ cmd ∈ c.boxPart, cmd.keyword? = some .boxText → Command.CutOff cmd.arguments →
      cmd.HasBlankText ∧ ¬ cmd.LacksText := by
  have hinBox : ∀ cmd ∈ c.boxPart, cmd.InBox := fun cmd hcmd => by
    simpa using List.mem_takeWhile_imp hcmd
  have hblank : ∀ cmd ∈ c.boxPart, cmd.HasBlankText → ¬ cmd.LacksText →
      Command.CutOff cmd.arguments := by
    intro cmd hcmd hblank hlacks
    obtain ⟨n, t, ht⟩ := exists_line_of_mem_boxPart hcmd
    exact (((Command.hasBlankText_iff ht).mp hblank).resolve_left hlacks).2
  refine ⟨?_, ?_, ?_⟩
  · intro ls hls
    cases takes_run [] c with
    | corrupt _ result => cases hls.symm.trans result
    | whole filled result rest =>
      obtain rfl : ls = c.boxPart.map Command.boxLine := Except.ok.inj (hls.symm.trans result)
      refine ⟨boxPart_append_commands rest, count_boxLine _ hinBox, ?_⟩
      intro cmd hcmd hcmdBlank
      exact hblank cmd hcmd hcmdBlank (filled cmd hcmd)
  · intro cmd hcmd hcmdBlank hcut
    cases takes_run [] c with
    | @corrupt bad first result =>
      exact ⟨bad, List.mem_of_find?_eq_some first, by simpa using List.find?_some first, result⟩
    | whole filled => exact absurd (hblank cmd hcmd hcmdBlank (filled cmd hcmd)) hcut
  · intro cmd hcmd hk hcut
    obtain ⟨n, t, ht⟩ := exists_line_of_mem_boxPart hcmd
    have hcmdBlank : cmd.HasBlankText := (Command.hasBlankText_iff ht).mpr (.inr ⟨hk, hcut⟩)
    exact ⟨hcmdBlank, Command.not_lacksText_of_cutOff hcut⟩

/-- A blank line without the command for one, and the same text without the carriage return. -/
theorem readLines_blank_line_of_text :
    (readLines (Cursor.seek "//CWTEXT  \rX".toList 0 1)).result = .ok [[]] ∧
    (Cursor.seek "//CWTEXT  \rX".toList 0 1).boxPart.countP (·.keyword? = some .boxBlank) = 0 ∧
    (readLines (Cursor.seek "//CWTEXT  ".toList 0 1)).result =
      .error (.script ⟨.emptyText, some "CWTEXT".toList, some 1⟩) ∧
    ¬ ∀ (c : Cursor) (ls : List Text), (readLines c).result = .ok ls →
      ls.count [] = c.boxPart.countP (·.keyword? = some .boxBlank) := by
  have hblank : (readLines (Cursor.seek "//CWTEXT  \rX".toList 0 1)).result = .ok [[]] := by
    decide +kernel
  have hnone : (Cursor.seek "//CWTEXT  \rX".toList 0 1).boxPart.countP
      (·.keyword? = some .boxBlank) = 0 := by decide +kernel
  refine ⟨hblank, hnone, by decide +kernel, fun h => ?_⟩
  have hcount := h _ _ hblank
  rw [hnone] at hcount
  cases hcount

end MessageBox

end Cutscene
