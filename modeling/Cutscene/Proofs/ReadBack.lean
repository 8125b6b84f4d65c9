import Cutscene.Proofs.Instructions
import Cutscene.Proofs.Written

/-!
One line is read back.

A written line is a command again; its numbers, its words and its text come back one after
another, and the instruction with them.
-/

namespace Cutscene

/-! ### Numbers -/

namespace Text

lemma not_isBlank_of_isDigit {c : Char} (h : c.isDigit = true) : isBlank c = false := by
  cases hb : isBlank c with
  | false => rfl
  | true =>
    simp only [isBlank, Bool.or_eq_true, beq_iff_eq] at hb
    rcases hb with ((((rfl | rfl) | rfl) | rfl) | rfl) | rfl <;> cases h

lemma not_isBlank_of_mem_ofInt {n : Int} {c : Char} (h : c ∈ ofInt n) : isBlank c = false := by
  cases n with
  | ofNat k => exact not_isBlank_of_isDigit (isDigit_of_mem_ofNat h)
  | negSucc k =>
    rcases List.mem_cons.mp h with rfl | h
    · rfl
    · exact not_isBlank_of_isDigit (isDigit_of_mem_ofNat h)

lemma ofInt_ne_nil (n : Int) : ofInt n ≠ [] := by
  cases n with
  | ofNat k => exact Nat.toDigits_ne_nil
  | negSucc k => exact List.cons_ne_nil _ _

lemma fields_cons (n : Int) (ns : List Int) : fields (n :: ns) = ' ' :: ofInt n ++ fields ns := rfl

/-- The end of some numbers can be seen, and so can that of a text before no numbers. -/
lemma getLast?_fields (ns : List Int) : ∀ c ∈ (fields ns).getLast?, isBlank c = false := by
  induction ns with
  | nil => simp [fields]
  | cons n ns ih =>
    intro c hc
    rw [fields_cons, List.getLast?_append, Option.mem_def, Option.or_eq_some_iff] at hc
    rcases hc with hc | ⟨-, hc⟩
    · exact ih c hc
    · rw [List.getLast?_cons_of_ne_nil (ofInt_ne_nil n)] at hc
      exact not_isBlank_of_mem_ofInt (List.mem_of_getLast? hc)

lemma endsNumber_fields_append {ns : List Int} {rest : Text} (h : rest.EndsNumber) :
    (fields ns ++ rest).EndsNumber := by
  cases ns with
  | nil => exact h
  | cons n ns => exact endsNumber_cons rfl _

lemma newline_not_mem_fields (ns : List Int) : '\n' ∉ fields ns := by
  intro h
  obtain ⟨n, -, h⟩ := List.mem_flatMap.mp h
  rcases List.mem_cons.mp h with h | h
  · cases h
  · cases not_isBlank_of_mem_ofInt h

lemma length_padded {width n : Nat} (h : n < 10 ^ width) (hw : 0 < width) :
    (padded width n).length = width := by
  have hle : (ofNat n).length ≤ width :=
    (Nat.length_toDigits_le_iff (by decide) hw).mpr h
  rw [padded, List.length_append, List.length_replicate]
  omega

lemma isDigit_of_mem_padded {width n : Nat} {c : Char} (h : c ∈ padded width n) :
    c.isDigit = true := by
  rcases List.mem_append.mp h with h | h
  · rw [List.eq_of_mem_replicate h]
    rfl
  · exact isDigit_of_mem_ofNat h

/-- Zeros at the start of a number do not count. -/
lemma leadingInt_padded {width n : Nat} (h : n < 10 ^ width) (hw : 0 < width)
    (hl : width ≤ digitLimit) : leadingInt (padded width n) = .ok (some n) := by
  have hlength := length_padded h hw
  have hne : padded width n ≠ [] := by
    intro hnil
    rw [hnil, List.length_nil] at hlength
    omega
  have hdrop : dropBlanks (padded width n) = padded width n := by
    refine dropBlanks_append (b := []) (by simp) fun c hc => ?_
    exact not_isBlank_of_isDigit (isDigit_of_mem_padded (List.mem_of_head? hc))
  have hscan : Numeral.scan? (padded width n) = some (⟨false, padded width n⟩, []) := by
    have := Numeral.scan?_digits hne (fun c => isDigit_of_mem_padded) endsNumber_nil
    rwa [List.append_nil] at this
  have hvalue : Numeral.value ⟨false, padded width n⟩ = n := by
    simp only [Numeral.value, padded, Nat.ofDigitChars_append, Nat.ofDigitChars_replicate_zero,
      Nat.mul_zero, ofDigitChars_ofNat]
    rfl
  have hlong : Numeral.tooLong ⟨false, padded width n⟩ = false :=
    decide_eq_false (by simp only; omega)
  unfold leadingInt Numeral.leading?
  rw [hdrop, hscan]
  simp only [Option.map_some, Numeral.read, hlong, hvalue]
  rfl

end Text

/-! ### Words and texts -/

namespace Text

variable {name t : Text}

lemma IsWord.dropBlanks_eq (h : name.IsWord) : dropBlanks name = name :=
  dropBlanks_append (b := []) (by simp) fun c hc => h.not_blank c (List.mem_of_head? hc)

lemma IsWord.word_eq (h : name.IsWord) : word name = name := by
  have hend : ∀ c ∈ ([] : Text).head?, isBlank c = true := by simp
  have hword := word_append h.not_blank hend
  rwa [List.append_nil] at hword

lemma IsWord.afterWord_eq (h : name.IsWord) : afterWord name = [] := by
  have hend : ∀ c ∈ ([] : Text).head?, isBlank c = true := by simp
  have hleft := afterWord_append h.not_blank hend
  rwa [List.append_nil] at hleft

/-- A line break is blank, so a line may be lengthened by what can be seen. -/
lemma IsLine.append_left (h : t.IsLine) {s : Text} (hs : ∀ c ∈ s, isBlank c = false) :
    (s ++ t).IsLine where
  newline hc := (List.mem_append.mp hc).elim (fun hc => by cases hs _ hc) h.newline
  ret hc := (List.mem_append.mp hc).elim (fun hc => by cases hs _ hc) h.ret

lemma isBlank_head?_space (t : Text) : ∀ c ∈ (' ' :: t).head?, isBlank c = true := by
  rintro c ⟨⟩
  rfl

lemma isLine_nil : IsLine [] := ⟨List.not_mem_nil, List.not_mem_nil⟩

end Text

namespace Text.Closes

variable {e t : Text}

lemma append_left (h : e.Closes t) (ht : t ≠ []) (s : Text) : e.Closes (s ++ t) where
  newline := h.newline
  head := h.head
  visible := h.visible.imp_right fun hv => by rwa [List.getLast?_append_of_ne_nil s ht]

/-- The blanks at the end of the line are all behind the text. -/
lemma trimEnd_append (h : e.Closes t) : trimEnd (t ++ e) = t ++ trimEnd e := by
  rcases h.visible with ⟨c, hc, hvisible⟩ | hvisible
  · -- what is visible after the text keeps the blanks at its end
    refine Text.trimEnd_append fun hnil => ?_
    have hblank := trimEnd_eq_nil_iff.mp hnil c hc
    rw [hvisible] at hblank
    cases hblank
  · exact trimEnd_append_of_visible hvisible e

/-- The text ends at the first carriage return. -/
lemma takeWhile_append_trimEnd (h : e.Closes t) (ht : '\r' ∉ t) :
    (t ++ trimEnd e).takeWhile (· ≠ '\r') = t := by
  refine takeWhile_append (fun c hc => ?_) fun c hc => ?_
  · have hne : c ≠ '\r' := by
      rintro rfl
      exact ht hc
    simpa using hne
  · simpa using h.head c (head?_trimEnd hc)

end Text.Closes

lemma Closing.newline_not_mem_payload (w : Closing) {t : Text} (h : '\n' ∉ t) :
    '\n' ∉ w.payload t := by
  intro hc
  rcases List.mem_cons.mp hc with hc | hc
  · cases hc
  · rcases List.mem_append.mp hc with hc | hc
    · exact h hc
    · exact (w.closes t).newline hc

/-- The arguments before a text and the text itself are kept when the line is trimmed. -/
lemma Closing.trimEnd_append_payload (w : Closing) (s : Text) {t : Text} (ht : t ≠ []) :
    Text.trimEnd (s ++ w.payload t) = s ++ ' ' :: (t ++ Text.trimEnd (w.after t)) := by
  have h := ((w.closes t).append_left ht (s ++ [' '])).trimEnd_append
  simpa [payload] using h

/-! ### Commands -/

namespace Keyword

lemma token_isWord (k : Keyword) : k.token.IsWord := by
  have hword : k.token ≠ [] ∧ k.token.all (!Text.isBlank ·) = true := by
    cases k with
    | oneLiner o => cases o <;> decide
    | _ => decide
  exact ⟨hword.1, fun c hc => by simpa using List.all_eq_true.mp hword.2 c hc⟩

lemma head?_token (k : Keyword) : k.token.head? ≠ some '/' := by
  cases k with
  | oneLiner o => cases o <;> decide
  | _ => decide

/-- The command with a meaning, with some arguments, on some line. -/
def command (k : Keyword) (arguments : Text) (line : Int) : Command := ⟨k.token, arguments, line⟩

variable {k : Keyword} {arguments : Text} {line : Int}

@[simp] lemma keyword?_command : (k.command arguments line).keyword? = some k := ofToken?_token k

@[simp] lemma unread_command : (k.command arguments line).unread = ⟨arguments, false⟩ := by
  have hne := k.token_isWord.ne_nil
  simp [Command.unread, command, hne]

/-- **A written command is read.** Only the blanks at the end of its line are lost. -/
lemma ofLine?_line (h : ∀ c ∈ arguments.head?, Text.isBlank c = true) :
    Command.ofLine? line (k.line arguments) = some (k.command (Text.trimEnd arguments) line) := by
  obtain ⟨hne, hword⟩ := k.token_isWord
  obtain ⟨c, token, htoken⟩ := List.exists_cons_of_ne_nil hne
  have hlast : ∀ c ∈ ('/' :: '/' :: k.token).getLast?, Text.isBlank c = false := by
    intro d hd
    rw [List.getLast?_cons_of_ne_nil (by simp), List.getLast?_cons_of_ne_nil hne] at hd
    exact hword d (List.mem_of_getLast? hd)
  have htrim : Text.trim (k.line arguments) = ['/', '/'] ++ (k.token ++ Text.trimEnd arguments) :=
    Text.trimEnd_append_of_visible hlast arguments
  have hslashes : Text.dropSlashes (Text.trim (k.line arguments)) =
      k.token ++ Text.trimEnd arguments := by
    rw [htrim]
    refine Text.dropWhile_append (by simp) fun d hd => ?_
    rw [List.head?_append_of_ne_nil _ hne] at hd
    have hslash : d ≠ '/' := by
      rintro rfl
      exact k.head?_token hd
    simpa using hslash
  have hblanks : Text.dropBlanks (k.token ++ Text.trimEnd arguments) =
      k.token ++ Text.trimEnd arguments := by
    rw [htoken]
    exact Text.dropBlanks_cons_of_not_isBlank (hword c (by simp [htoken])) _
  have hhead : ∀ d ∈ (Text.trimEnd arguments).head?, Text.isBlank d = true := fun d hd =>
    h d (Text.head?_trimEnd hd)
  have hcommand : Command.isCommand (k.line arguments) = true := by
    rw [Command.isCommand, htrim]
    rfl
  unfold Command.ofLine?
  rw [if_pos hcommand, hslashes, hblanks]
  dsimp only
  rw [Text.word_append hword hhead, Text.afterWord_append hword hhead]
  rfl

lemma newline_not_mem_line (h : '\n' ∉ arguments) : '\n' ∉ k.line arguments := by
  have htoken : '\n' ∉ k.token := fun hc => by cases k.token_isWord.not_blank _ hc
  simp [line, h, htoken]

end Keyword

/-! ### Arguments -/

lemma Closing.text_payload (w : Closing) {t : Text} (ht : '\r' ∉ t) :
    (Arguments.text ⟨' ' :: (t ++ Text.trimEnd (w.after t)), false⟩).1 = t :=
  (w.closes t).takeWhile_append_trimEnd ht

namespace Take

variable {c : Command} {ns : List Int} {n : Int} {rest : Text}

/-- Numbers are read one after another, whatever stands behind them. -/
lemma runOn_int_fields (hn : Writable n) (hr : rest.EndsNumber) :
    runOn int ⟨Text.fields (n :: ns) ++ rest, false⟩ =
      (.ok n, ⟨Text.fields ns ++ rest, false⟩) := by
  have hhead : ∀ c ∈ (Text.ofInt n ++ (Text.fields ns ++ rest)).head?, Text.isBlank c = false := by
    intro c hc
    rw [List.head?_append_of_ne_nil _ (Text.ofInt_ne_nil n)] at hc
    exact Text.not_isBlank_of_mem_ofInt (List.mem_of_head? hc)
  have hdrop : Text.dropBlanks (Text.fields (n :: ns) ++ rest) =
      Text.ofInt n ++ (Text.fields ns ++ rest) := by
    rw [Text.fields_cons, List.append_assoc]
    exact Text.dropBlanks_append (b := [' ']) (List.forall_mem_singleton.mpr rfl) hhead
  rw [runOn_int, Arguments.int, if_neg (by simp)]
  dsimp only
  rw [hdrop, Numeral.scan?_ofInt n (Text.endsNumber_fields_append hr)]
  dsimp only
  rw [Numeral.read_ofInt hn]

lemma runOn_intWith (valid : Int → Bool) (hn : Writable n) (hr : rest.EndsNumber)
    (hv : valid n = true) :
    runOn (intWith c valid) ⟨Text.fields (n :: ns) ++ rest, false⟩ =
      (.ok n, ⟨Text.fields ns ++ rest, false⟩) := by
  rw [intWith, runOn_bind_of_ok (runOn_int_fields hn hr), if_pos hv, runOn_pure]

lemma runOn_someWord {name : Text} (h : name.IsWord) :
    runOn (someWord c) ⟨' ' :: name, false⟩ = (.ok name, ⟨[], false⟩) := by
  have hdrop : Text.dropBlanks (' ' :: name) = name :=
    (Text.dropBlanks_cons_of_isBlank rfl name).trans h.dropBlanks_eq
  have hread : runOn word ⟨' ' :: name, false⟩ = (.ok name, ⟨[], false⟩) := by
    rw [runOn_word, Arguments.word, if_neg (by simp)]
    dsimp only
    rw [hdrop, h.word_eq, h.afterWord_eq, List.isEmpty_eq_false_iff.mpr h.ne_nil]
  rw [someWord, runOn_bind_of_ok hread]
  cases name with
  | nil => exact absurd rfl h.ne_nil
  | cons x name => rfl

lemma runOn_checkBoxes {boxes : List CheckBox} (hb : ∀ b ∈ boxes, Writable b.y ∧ Writable b.id)
    (hr : rest.EndsNumber) :
    runOn (checkBoxes boxes.length)
      ⟨Text.fields (boxes.flatMap fun b => [b.y, b.id]) ++ rest, false⟩ =
      (.ok boxes, ⟨rest, false⟩) := by
  induction boxes with
  | nil => rfl
  | cons b boxes ih =>
    obtain ⟨hy, hid⟩ := hb b List.mem_cons_self
    have ih := ih fun b hmem => hb b (List.mem_cons_of_mem _ hmem)
    have hbox : runOn checkBox
        ⟨Text.fields (b.y :: b.id :: boxes.flatMap fun b => [b.y, b.id]) ++ rest, false⟩ =
        (.ok b, ⟨Text.fields (boxes.flatMap fun b => [b.y, b.id]) ++ rest, false⟩) := by
      rw [checkBox, runOn_bind_of_ok (runOn_int_fields hy hr),
        runOn_bind_of_ok (runOn_int_fields hid hr), runOn_pure]
    rw [List.length_cons, checkBoxes, List.flatMap_cons]
    exact (runOn_bind_of_ok hbox).trans (runOn_bind_of_ok ih)

/-- The measures of a box stand in the order in which they are read. -/
lemma runOn_boxFrame {y width height : Int} (hy : Writable y) (hw : Writable width)
    (hh : Writable height) :
    (runOn boxFrame ⟨Text.fields [y, height, width], false⟩).1 = .ok ⟨y, width, height⟩ := by
  have hend := Text.endsNumber_nil
  rw [← List.append_nil (Text.fields _), boxFrame, runOn_bind_of_ok (runOn_int_fields hy hend),
    runOn_bind_of_ok (runOn_int_fields hh hend), runOn_bind_of_ok (runOn_int_fields hw hend),
    runOn_pure]

end Take

/-! ### Drawings -/

lemma Text.color?_colorMark {color : Int} (h : 0 ≤ color ∧ color ≤ 15) :
    color? (colorMark color) = some color := by
  have hall : ∀ k : Fin 16, color? (colorMark (k.val : Int)) = some (k.val : Int) := by decide
  obtain ⟨k, rfl⟩ := Int.eq_ofNat_of_zero_le h.1
  exact hall ⟨k, by omega⟩

lemma Text.isLine_colored {color : Int} {t : Text} (h : 0 ≤ color ∧ color ≤ 15) (ht : t.IsLine) :
    IsLine (colorMark color :: t) := by
  have hvisible : isBlank (colorMark color) = false := by
    have hall : ∀ k : Fin 16, isBlank (colorMark (k.val : Int)) = false := by decide
    obtain ⟨k, rfl⟩ := Int.eq_ofNat_of_zero_le h.1
    exact hall ⟨k, by omega⟩
  exact ht.append_left (s := [colorMark color]) (by simpa using hvisible)

lemma Text.isLine_spriteCode (actor frame : Nat) :
    IsLine (spriteMark :: (padded 3 actor ++ padded 2 frame)) := by
  have hvisible : ∀ c ∈ spriteMark :: (padded 3 actor ++ padded 2 frame), isBlank c = false := by
    intro c hc
    rcases List.mem_cons.mp hc with rfl | hc
    · decide
    · rcases List.mem_append.mp hc with hc | hc
      · exact not_isBlank_of_isDigit (isDigit_of_mem_padded hc)
      · exact not_isBlank_of_isDigit (isDigit_of_mem_padded hc)
  simpa using isLine_nil.append_left hvisible

lemma Text.splitAtColor?_eq_none {t : Text}
    (h : ∀ c ∈ t, ¬(0xF0 ≤ c.toNat ∧ c.toNat ≤ 0xFF)) : splitAtColor? t = none := by
  induction t with
  | nil => rfl
  | cons c t ih =>
    have hc : color? c = none := if_neg (h c List.mem_cons_self)
    rw [splitAtColor?, hc, ih fun d hd => h d (List.mem_cons_of_mem _ hd)]
    rfl

namespace Command

variable (c : Command) {x y color actor frame : Int} {t : Text}

lemma drawing_plain (h : t.IsPlain) : c.drawing x y t = .ok (.text x y t) := by
  obtain ⟨first, t, rfl⟩ := List.exists_cons_of_ne_nil h.ne_nil
  have hfirst : first ≠ spriteMark := by simpa using h.head
  unfold drawing
  rw [Text.splitAtColor?_eq_none h.color]
  exact if_neg hfirst

lemma drawing_colored (h : 0 ≤ color ∧ color ≤ 15) :
    c.drawing x y (Text.colorMark color :: t) = .ok (.bigText x y color t) := by
  have hsplit : Text.splitAtColor? (Text.colorMark color :: t) = some (0, color, t) := by
    rw [Text.splitAtColor?, Text.color?_colorMark h]
  unfold drawing
  rw [hsplit]
  simp [pure, Except.pure]

/-- Three digits for the actor and two for the frame announce a sprite beside its place. -/
lemma drawing_sprite (ha : 0 ≤ actor ∧ actor ≤ 999) (hf : 0 ≤ frame ∧ frame ≤ 99) :
    c.drawing (x - 2) (y - 1)
      (spriteMark :: (Text.padded 3 actor.toNat ++ Text.padded 2 frame.toNat)) =
      .ok (.sprite x y actor frame) := by
  obtain ⟨a, rfl⟩ := Int.eq_ofNat_of_zero_le ha.1
  obtain ⟨f, rfl⟩ := Int.eq_ofNat_of_zero_le hf.1
  have ha : a < 10 ^ 3 := by omega
  have hf : f < 10 ^ 2 := by omega
  simp only [Int.toNat_natCast]
  set digits := Text.padded 3 a ++ Text.padded 2 f with hdigits
  have halen := Text.length_padded ha (by decide)
  have hflen := Text.length_padded hf (by decide)
  have hlength : ¬ (spriteMark :: digits).length < 6 := by
    rw [List.length_cons, hdigits, List.length_append, halen, hflen]
    decide
  have hactor : ((spriteMark :: digits).drop 1).take 3 = Text.padded 3 a := by
    rw [List.drop_one, List.tail_cons, hdigits, List.take_left' halen]
  have hframe : ((spriteMark :: digits).drop 4).take 2 = Text.padded 2 f := by
    rw [List.drop_succ_cons, hdigits, List.drop_left' halen, List.take_of_length_le hflen.le]
  have hsplit : Text.splitAtColor? (spriteMark :: digits) = none := by
    refine Text.splitAtColor?_eq_none fun d hd => ?_
    rcases List.mem_cons.mp hd with rfl | hd
    · decide
    · have hdigit : d.isDigit = true :=
        (List.mem_append.mp hd).elim Text.isDigit_of_mem_padded Text.isDigit_of_mem_padded
      have hbounds := Char.isDigit_iff_toNat.mp hdigit
      simp only [Char.reduceToNat] at hbounds
      omega
  unfold drawing
  rw [hsplit]
  dsimp only
  rw [if_pos rfl, sprite, if_neg hlength, hactor, hframe,
    Text.leadingInt_padded ha (by decide) (by decide),
    Text.leadingInt_padded hf (by decide) (by decide)]
  simp [bind, Except.bind, pure, Except.pure]

end Command

/-! ### Instructions -/

/-- A number a little below a presentable one can be written as well. -/
lemma writable_sub {n : Int} (h : n.natAbs < 10 ^ (digitLimit - 1)) {k : Int}
    (hk : 0 ≤ k ∧ k ≤ 2) : Writable (n - k) := by
  obtain ⟨d, hd⟩ : ∃ d, digitLimit = d + 1 := ⟨4299, rfl⟩
  rw [hd, Nat.add_sub_cancel] at h
  apply writable_of_natAbs_lt
  rw [hd, Nat.pow_succ]
  omega

lemma writable_of_presentable {n : Int} (h : n.natAbs < 10 ^ (digitLimit - 1)) : Writable n := by
  simpa using writable_sub h (k := 0) (by decide)

lemma Instruction.Presentable.writable {i : Instruction} (h : i.Presentable) {n : Int}
    (hn : n ∈ i.numbers) : Writable n := writable_of_presentable (h.numbers n hn)

/-- A one-line command is its instruction when its arguments are. -/
lemma OneLiner.instruction?_command {o : OneLiner} {arguments : Text} {line : Int} {i : Instruction}
    (h : ((o.instruction ((Keyword.oneLiner o).command arguments line)).runOn
      ⟨arguments, false⟩).1 = .ok i) :
    ((Keyword.oneLiner o).command arguments line).instruction? = .ok (some i) := by
  rw [Command.instruction?_of_oneLiner Keyword.keyword?_command, Keyword.unread_command, h]
  rfl

/-- What is drawn is decided by the place and the text. -/
lemma Take.runOn_drawing (w : Closing) {c : Command} {x y : Int} {t : Text} {i : Instruction}
    (hx : Writable x) (hy : Writable y) (ht : t ≠ []) (hr : '\r' ∉ t)
    (h : c.drawing x y t = .ok i) :
    ((OneLiner.text.instruction c).runOn
      ⟨Text.trimEnd (Text.fields [x, y] ++ w.payload t), false⟩).1 = .ok i := by
  have hend : Text.EndsNumber (' ' :: (t ++ Text.trimEnd (w.after t))) := Text.endsNumber_cons rfl _
  have hnone : Text.fields [] = [] := rfl
  rw [w.trimEnd_append_payload _ ht, OneLiner.instruction,
    runOn_bind_of_ok (runOn_int_fields hx hend),
    runOn_bind_of_ok (runOn_int_fields hy hend), hnone, List.nil_append,
    runOn_bind_of_ok (runOn_text _), w.text_payload hr, runOn_lift, h]

/-- **A written instruction is read back.** -/
theorem Instruction.instruction?_of_command? {w : Closing} {i : Instruction} {o : OneLiner}
    {arguments : Text} (hi : i.command? w = some (o, arguments)) (hw : i.WellFormed)
    (hp : i.Presentable) (line : Int) :
    ((Keyword.oneLiner o).command (Text.trimEnd arguments) line).instruction? = .ok (some i) := by
  have hend := Text.endsNumber_nil
  -- apart from texts, nothing is lost at the end of the line
  have hfields (ns : List Int) : Text.trimEnd (Text.fields ns) = Text.fields ns ++ [] := by
    rw [List.append_nil, Text.trimEnd_of_visible (Text.getLast?_fields ns)]
  have hname {name : Text} (h : name.IsWord) : Text.trimEnd (' ' :: name) = ' ' :: name := by
    refine Text.trimEnd_of_visible fun c hc => ?_
    rw [List.getLast?_cons_of_ne_nil h.ne_nil] at hc
    exact h.not_blank c (List.mem_of_getLast? hc)
  apply OneLiner.instruction?_command
  cases i with
  | fadeInBeforeWait | messageBox | rememberSelection => cases hi
  | text x y t =>
    cases hi
    have hx : Writable x := hp.writable (by simp [numbers])
    have hy : Writable y := hp.writable (by simp [numbers])
    exact Take.runOn_drawing w hx hy hw.ne_nil hw.ret (Command.drawing_plain _ hw)
  | bigText x y color t =>
    cases hi
    obtain ⟨hcolor, hline⟩ := hw
    have hx : Writable x := hp.writable (by simp [numbers])
    have hy : Writable y := hp.writable (by simp [numbers])
    exact Take.runOn_drawing w hx hy (List.cons_ne_nil _ _) (Text.isLine_colored hcolor hline).ret
      (Command.drawing_colored _ hcolor)
  | sprite x y actor frame =>
    cases hi
    have hactor : 0 ≤ actor := hp.unsigned actor (by simp [unsigned])
    have hframe : 0 ≤ frame := hp.unsigned frame (by simp [unsigned])
    -- the sprite is written two to the left of its place and one above it
    have hx : Writable (x - 2) := writable_sub (hp.numbers x (by simp [numbers])) (by decide)
    have hy : Writable (y - 1) := writable_sub (hp.numbers y (by simp [numbers])) (by decide)
    exact Take.runOn_drawing w hx hy (List.cons_ne_nil _ _) (Text.isLine_spriteCode _ _).ret
      (Command.drawing_sprite _ ⟨hactor, hw.1.2⟩ ⟨hframe, hw.2.2⟩)
  | delay n | talk n =>
    cases hi
    have hn : Writable n := hp.writable (by simp [numbers])
    have hpos : 0 < n := hw
    rw [hfields, OneLiner.instruction,
      Take.runOn_bind_of_ok (Take.runOn_intWith (0 < ·) hn hend (decide_eq_true hpos))]
    rfl
  | saveSlots n =>
    cases hi
    have hn : Writable n := hp.writable (by simp [numbers])
    have hslot : 0 ≤ n ∧ n < saveSlotCount := hw
    rw [hfields, OneLiner.instruction, Take.runOn_bind_of_ok
      (Take.runOn_intWith (fun n => 0 ≤ n && n < saveSlotCount) hn hend (by simpa using hslot))]
    rfl
  | picture name | palette name =>
    cases hi
    rw [hname hw, OneLiner.instruction, Take.runOn_bind_of_ok (Take.runOn_someWord hw)]
    rfl
  | selectionMark y =>
    cases hi
    have hy : Writable y := hp.writable (by simp [numbers])
    rw [hfields, OneLiner.instruction, Take.runOn_bind_of_ok (Take.runOn_int_fields hy hend)]
    rfl
  | checkBoxes x boxes =>
    cases hi
    have hx : Writable x := hp.writable (by simp [numbers])
    have hcount : Writable boxes.length :=
      writable_of_presentable (n := boxes.length) (hp.counts _ (List.mem_singleton_self _))
    have hboxes : ∀ b ∈ boxes, Writable b.y ∧ Writable b.id := fun b hb =>
      ⟨hp.writable (List.mem_cons_of_mem _ (List.mem_flatMap.mpr ⟨b, hb, by simp⟩)),
        hp.writable (List.mem_cons_of_mem _ (List.mem_flatMap.mpr ⟨b, hb, by simp⟩))⟩
    rw [hfields, OneLiner.instruction, Take.runOn_bind_of_ok (Take.runOn_int_fields hx hend),
      Take.runOn_bind_of_ok (Take.runOn_int_fields hcount hend), Int.toNat_natCast,
      Take.runOn_bind_of_ok (Take.runOn_checkBoxes hboxes hend)]
    rfl
  | _ =>
    cases hi
    rfl

/-! ### Lines -/

namespace Instruction

variable {w : Closing} {i : Instruction} {o : OneLiner} {arguments : Text}

lemma exists_command? (h : i.IsOneLine) (w : Closing) :
    ∃ o arguments, i.command? w = some (o, arguments) ∧
      i.sourceLines w = [(Keyword.oneLiner o).line arguments] := by
  cases i with
  | fadeInBeforeWait | messageBox | rememberSelection => exact h.elim
  | _ => exact ⟨_, _, rfl, rfl⟩

lemma head?_of_command? (h : i.command? w = some (o, arguments)) :
    ∀ c ∈ arguments.head?, Text.isBlank c = true := by
  have hshape : arguments = [] ∨ ∃ rest, arguments = ' ' :: rest := by
    cases i <;> cases h <;> first | exact .inl rfl | exact .inr ⟨_, rfl⟩
  rcases hshape with rfl | ⟨rest, rfl⟩
  · simp
  · exact Text.isBlank_head?_space rest

lemma newline_not_mem_of_command? (h : i.command? w = some (o, arguments)) (hw : i.WellFormed) :
    '\n' ∉ arguments := by
  have hfields := Text.newline_not_mem_fields
  have hname {name : Text} (h : name.IsWord) : '\n' ∉ ' ' :: name := by
    intro hc
    rcases List.mem_cons.mp hc with hc | hc
    · cases hc
    · cases h.not_blank _ hc
  have htext {ns : List Int} {t : Text} (ht : '\n' ∉ t) :
      '\n' ∉ Text.fields ns ++ w.payload t := fun hc =>
    (List.mem_append.mp hc).elim (hfields ns) (w.newline_not_mem_payload ht)
  cases i with
  | fadeInBeforeWait | messageBox | rememberSelection => cases h
  | delay | talk | saveSlots | selectionMark | checkBoxes =>
    cases h
    exact hfields _
  | picture | palette =>
    cases h
    exact hname hw
  | text x y t =>
    cases h
    exact htext hw.newline
  | bigText x y color t =>
    cases h
    exact htext (Text.isLine_colored hw.1 hw.2).newline
  | sprite x y actor frame =>
    cases h
    exact htext (Text.isLine_spriteCode _ _).newline
  | _ =>
    cases h
    exact List.not_mem_nil

end Instruction

end Cutscene
