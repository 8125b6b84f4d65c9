import Cutscene.Proofs.Tiling

/-!
Integers, read in two ways.

An integer is read from arguments, which are then behind its last digit, or from the start of a
text, which stays as it is. Both find one at the same places, and both give the same number for it
or the same fault if it is too long. The number is the one that is written, however many zeros come
first.
-/

namespace Cutscene

/-! ### Numbers after zeros -/

namespace Numeral

/-- The number with some zeros before its digits. -/
def zeroFilled (zeros : Nat) (n : Int) : Numeral :=
  ⟨decide (n < 0), List.replicate zeros '0' ++ Text.ofNat n.natAbs⟩

variable {zeros : Nat} {n : Int}

lemma digits_zeroFilled : ∀ c ∈ (zeroFilled zeros n).digits, c.isDigit = true := by
  intro c hc
  rcases List.mem_append.mp hc with hzero | hdigit
  · rw [List.eq_of_mem_replicate hzero]
    rfl
  · exact Text.isDigit_of_mem_ofNat hdigit

lemma digits_zeroFilled_ne_nil : (zeroFilled zeros n).digits ≠ [] :=
  List.append_ne_nil_of_right_ne_nil _ Nat.toDigits_ne_nil

/-- Zeros at the start do not count. -/
lemma value_zeroFilled : (zeroFilled zeros n).value = n := by
  have hsize : Nat.ofDigitChars 10 (zeroFilled zeros n).digits 0 = n.natAbs := by
    rw [zeroFilled, Nat.ofDigitChars_append, Nat.ofDigitChars_replicate_zero, Nat.mul_zero,
      Text.ofDigitChars_ofNat]
  rw [value, hsize]
  simp only [zeroFilled, decide_eq_true_eq]
  split <;> omega

/-- A number is found where it is written, with blanks, a sign and zeros before its digits. -/
lemma leads_zeroFilled {blanks sign rest : Text} (hblanks : ∀ c ∈ blanks, Text.isBlank c = true)
    (hsign : Sign (decide (n < 0)) sign) (hrest : rest.EndsNumber) :
    (zeroFilled zeros n).Leads rest
      (blanks ++ (sign ++ ((List.replicate zeros '0' ++ Text.ofNat n.natAbs) ++ rest))) :=
  .intro (n := zeroFilled zeros n) hblanks hsign digits_zeroFilled_ne_nil digits_zeroFilled hrest

end Numeral

/-! ### Two readers -/

namespace Arguments

variable {t : Text}

/-- **The integer at the start of a text** is the one that is read from it, unless the read
fails. -/
lemma leadingInt_eq (t : Text) :
    Text.leadingInt t =
      if (ofText t).int.2.failed then .ok none else some <$> (ofText t).int.1 := by
  obtain ⟨n, rest, hleads, hint⟩ | ⟨habsent, hint⟩ := int_ofText_cases t
  · rw [Text.leadingInt_of_leads hleads, hint]
    rfl
  · rw [Text.leadingInt_of_absent habsent, hint]
    rfl

lemma int_ofText_of_failed (h : (ofText t).int.2.failed = true) : (ofText t).int.1 = .ok 0 := by
  obtain ⟨n, rest, -, hint⟩ | ⟨-, hint⟩ := int_ofText_cases t <;> rw [hint] at h ⊢
  cases h

/-- A read that does not fail stops behind the numeral that it finds. -/
lemma exists_leads_of_int (h : (ofText t).int.2.failed = false) :
    ∃ n : Numeral, n.Leads (ofText t).int.2.rest t ∧ (ofText t).int.1 = n.read := by
  obtain ⟨n, rest, hleads, hint⟩ | ⟨-, hint⟩ := int_ofText_cases t <;> rw [hint] at h ⊢
  · exact ⟨n, hleads, rfl⟩
  · cases h

/-- **Two readers of integers.** Read an integer at any offset of a text, from arguments that have
not failed. The read fails, with zero, exactly when no integer starts the text from there on; it is
a fault exactly when that integer is one; and otherwise it gives the same integer. If it does not
fail, then it has passed blanks, a sign or none, and all digits up to a character that is none; too
many digits are the fault, and nothing else is. Any integer is read as itself where it is written in
decimal digits: after any blanks, with a minus sign if it is below zero and a plus sign or none if
it is not, with any zeros first, as long as there are not too many digits, and before anything that
does not start with a digit. -/
theorem int_eq_leadingInt :
    (∀ (t : Text) (o : Nat),
      let start : Arguments := ⟨t.drop o, false⟩
      let read := start.int
      (read.2.failed = true ↔ Text.leadingInt (t.drop o) = .ok none) ∧
      (read.2.failed = true → read.1 = .ok 0) ∧
      (∀ e, read.1 = .error e ↔ Text.leadingInt (t.drop o) = .error e) ∧
      (∀ n, read.2.failed = false ∧ read.1 = .ok n ↔
        Text.leadingInt (t.drop o) = .ok (some n)) ∧
      (read.2.failed = false → ∃ n : Numeral,
        n.Leads (t.drop (read.2.offsetIn t)) (t.drop o) ∧
        read.2.rest = t.drop (read.2.offsetIn t) ∧
        read.1 = if digitLimit < n.digits.length then
          .error (.numeralTooLong n.digits.length) else .ok n.value)) ∧
    ∀ (n : Int) (blanks sign rest : Text) (zeros : Nat),
      let digits := List.replicate zeros '0' ++ Text.ofNat n.natAbs
      let t := blanks ++ (sign ++ (digits ++ rest))
      (∀ c ∈ blanks, Text.isBlank c = true) → Numeral.Sign (decide (n < 0)) sign →
      digits.length ≤ digitLimit → rest.EndsNumber →
        Text.leadingInt t = .ok (some n) ∧ (ofText t).int = (.ok n, ofText rest) := by
  constructor
  · intro t o start read
    have hleading : Text.leadingInt (t.drop o) =
        if read.2.failed then .ok none else some <$> read.1 := leadingInt_eq _
    have hzero : read.2.failed = true → read.1 = .ok 0 := int_ofText_of_failed
    refine ⟨?_, hzero, ?_, ?_, ?_⟩
    · rw [hleading]
      cases hfailed : read.2.failed with
      | true => simp
      | false => cases read.1 <;> simp
    · intro e
      rw [hleading]
      cases hfailed : read.2.failed with
      | true => simp [hzero hfailed]
      | false => cases read.1 <;> simp
    · intro n
      rw [hleading]
      cases hfailed : read.2.failed with
      | true => simp
      | false => cases read.1 <;> simp
    · intro hfailed
      obtain ⟨n, hleads, hvalue⟩ := exists_leads_of_int (t := t.drop o) hfailed
      obtain ⟨piece, hpiece⟩ := exists_reads start .int
      have hsuffix : read.2.rest <:+ t := hpiece.suffix.trans (List.drop_suffix o t)
      have hrest : t.drop (read.2.offsetIn t) = read.2.rest := (offsetIn_of_suffix hsuffix).1
      refine ⟨n, hrest.symm ▸ hleads, hrest.symm, hvalue.trans ?_⟩
      split
      · rename_i hlong
        exact Numeral.read_of_lt_length hlong
      · rename_i hshort
        exact Numeral.read_of_length (not_lt.mp hshort)
  · intro n blanks sign rest zeros digits t hblanks hsign hlength hrest
    have hleads : (Numeral.zeroFilled zeros n).Leads rest t :=
      Numeral.leads_zeroFilled hblanks hsign hrest
    have hread : (ofText t).int = (.ok n, ofText rest) := by
      rw [int_ofText_of_leads hleads, Numeral.read_of_length hlength, Numeral.value_zeroFilled]
    refine ⟨?_, hread⟩
    rw [leadingInt_eq, hread]
    rfl

/-- A number below zero in the middle of a text, and a sign alone after it. -/
theorem int_eq_leadingInt_below_zero :
    let t := "7 -012_+ 5".toList
    (∀ c ∈ " ".toList, Text.isBlank c = true) ∧ Numeral.Sign (decide ((-12 : Int) < 0)) ['-'] ∧
      Text.EndsNumber "_+ 5".toList ∧ Text.leadingInt (t.drop 1) = .ok (some (-12)) ∧
      (ofText (t.drop 1)).int = (.ok (-12), ofText "_+ 5".toList) ∧
      (⟨t.drop 7, false⟩ : Arguments).int.1 = .ok 0 ∧ Text.leadingInt (t.drop 7) = .ok none := by
  intro t
  have hblank : ∀ c ∈ " ".toList, Text.isBlank c = true :=
    List.forall_mem_singleton.mpr rfl
  have hsign : Numeral.Sign (decide ((-12 : Int) < 0)) ['-'] := by
    rw [decide_eq_true (by decide)]
    exact .minus
  have hrest : Text.EndsNumber "_+ 5".toList := Text.endsNumber_cons (c := '_') rfl _
  obtain ⟨hleading, hint⟩ := int_eq_leadingInt.2 (-12) " ".toList ['-'] "_+ 5".toList 1 hblank
    hsign (by decide) hrest
  obtain ⟨hnone, hzero, -⟩ := int_eq_leadingInt.1 t 7
  have hfailed : (⟨t.drop 7, false⟩ : Arguments).int.2.failed = true := by decide
  exact ⟨hblank, hsign, hrest, hleading, hint, hzero hfailed, hnone.mp hfailed⟩

end Arguments

end Cutscene
