import Mathlib.Data.List.Induction
import Mathlib.Tactic.Common
import Mathlib.Tactic.Positivity
import Cutscene.Fault
import Cutscene.Proofs.Blanks

/-!
Numerals: a written number is read back, and a short numeral is a small number.
-/

namespace Cutscene

/-- The text does not start with a digit, so that a number before it ends there. -/
def Text.EndsNumber (t : Text) : Prop := ∀ c ∈ t.head?, c.isDigit = false

lemma Text.endsNumber_nil : EndsNumber [] := by simp [EndsNumber]

lemma Text.endsNumber_cons {c : Char} (h : c.isDigit = false) (t : Text) : EndsNumber (c :: t) := by
  simp [EndsNumber, h]

namespace Numeral

/-! ### Reading back -/

/-- Digits after a sign, or after none, are read up to their end. -/
lemma scan?_of_sign {t ds rest : Text} {negative : Bool} (hs : sign t = (negative, ds ++ rest))
    (hne : ds ≠ []) (hd : ∀ c ∈ ds, c.isDigit = true) (hr : rest.EndsNumber) :
    scan? t = some (⟨negative, ds⟩, rest) := by
  unfold scan?
  rw [hs]
  simp only [Text.takeWhile_append hd hr, Text.dropWhile_append hd hr]

lemma sign_of_isDigit {c : Char} (h : c.isDigit = true) (t : Text) :
    sign (c :: t) = (false, c :: t) := by
  have hminus : c ≠ '-' := by rintro rfl; cases h
  have hplus : c ≠ '+' := by rintro rfl; cases h
  unfold sign
  split
  · rename_i heq
    exact absurd (List.cons.inj heq).1 hminus
  · rename_i heq
    exact absurd (List.cons.inj heq).1 hplus
  · rfl

lemma scan?_digits {ds rest : Text} (hne : ds ≠ []) (hd : ∀ c ∈ ds, c.isDigit = true)
    (hr : rest.EndsNumber) : scan? (ds ++ rest) = some (⟨false, ds⟩, rest) := by
  obtain ⟨c, ds, rfl⟩ := List.exists_cons_of_ne_nil hne
  exact scan?_of_sign (sign_of_isDigit (hd c List.mem_cons_self) _) hne hd hr

def ofInt (n : Int) : Numeral := ⟨decide (n < 0), Text.ofNat n.natAbs⟩

lemma value_ofInt (n : Int) : (ofInt n).value = n := by
  unfold value ofInt
  simp only [Text.ofDigitChars_ofNat]
  split <;> rename_i h <;> simp only [decide_eq_true_eq] at h <;> omega

lemma scan?_ofInt (n : Int) {rest : Text} (hr : rest.EndsNumber) :
    scan? (Text.ofInt n ++ rest) = some (ofInt n, rest) := by
  have hd (k : Nat) : ∀ c ∈ Text.ofNat k, c.isDigit = true := fun c => Text.isDigit_of_mem_ofNat
  have hne (k : Nat) : Text.ofNat k ≠ [] := Nat.toDigits_ne_nil
  cases n with
  | ofNat k => exact scan?_digits (hne k) (hd k) hr
  | negSucc k =>
    have hnumeral : ofInt (.negSucc k) = ⟨true, Text.ofNat (k + 1)⟩ := by
      simp [ofInt, Int.negSucc_lt_zero]
    rw [hnumeral]
    exact scan?_of_sign rfl (hne (k + 1)) (hd (k + 1)) hr

lemma read_ofInt {n : Int} (h : Writable n) : (ofInt n).read = .ok n := by
  have hlong : (ofInt n).tooLong = false := by
    exact decide_eq_false (Nat.not_lt.mpr h)
  rw [read, hlong, value_ofInt]
  rfl

end Numeral

/-- A number is told from the text that it starts, and so is what follows it. -/
lemma Text.ofInt_append_inj {n m : Int} {r r' : Text} (hr : r.EndsNumber) (hr' : r'.EndsNumber)
    (h : ofInt n ++ r = ofInt m ++ r') : n = m ∧ r = r' := by
  have hscan := Numeral.scan?_ofInt n hr
  rw [h, Numeral.scan?_ofInt m hr'] at hscan
  obtain ⟨hnumeral, hrest⟩ := Prod.mk.inj (Option.some.inj hscan)
  refine ⟨?_, hrest.symm⟩
  rw [← Numeral.value_ofInt n, ← hnumeral, Numeral.value_ofInt]

lemma Text.ofInt_injective {n m : Int} (h : ofInt n = ofInt m) : n = m :=
  (ofInt_append_inj endsNumber_nil endsNumber_nil (congrArg (· ++ []) h)).1

/-- A number below the power of ten with that many zeros has no more digits than may be written. -/
lemma writable_of_natAbs_lt {n : Int} (h : n.natAbs < 10 ^ digitLimit) : Writable n :=
  (Nat.length_toDigits_le_iff (by decide) (by decide)).mpr h

/-! ### Size -/

lemma ofDigitChars_lt {ds : Text} (h : ∀ c ∈ ds, c.isDigit = true) :
    Nat.ofDigitChars 10 ds 0 < 10 ^ ds.length := by
  induction ds using List.reverseRecOn with
  | nil => simp
  | append_singleton ds c ih =>
    have hc := Char.isDigit_iff_toNat.mp (h c (by simp))
    have ih := ih fun d hd => h d (by simp [hd])
    have hdigit : c.toNat - '0'.toNat < 10 := by
      simp only [Char.reduceToNat] at hc ⊢
      omega
    rw [Nat.ofDigitChars_append, Nat.ofDigitChars_cons, Nat.ofDigitChars_nil, List.length_append,
      List.length_singleton, Nat.pow_succ]
    omega

namespace Numeral

lemma length_of_scan? {t rest : Text} {n : Numeral} (h : scan? t = some (n, rest)) :
    (∀ c ∈ n.digits, c.isDigit = true) ∧ n.digits.length + n.negative.toNat ≤ t.length := by
  have hsign : (sign t).2.length + (sign t).1.toNat ≤ t.length := by
    unfold sign
    split <;> simp
  unfold scan? at h
  dsimp only at h
  split at h
  · cases h
  · cases h
    rename_i heq
    refine ⟨fun c hc => ?_, ?_⟩
    · exact List.mem_takeWhile_imp hc
    · have := (List.takeWhile_prefix Char.isDigit (l := (sign t).2)).length_le
      simp only
      omega

/-- A numeral in a short text is a small number, and smaller still below zero. -/
lemma value_bounds {t : Text} {n : Numeral} {k : Nat} (h : leading? t = some n)
    (ht : t.length ≤ k + 1) : -(10 ^ k : Int) < n.value ∧ n.value < 10 ^ (k + 1) := by
  obtain ⟨⟨n', rest⟩, hscan, rfl⟩ := Option.map_eq_some_iff.mp h
  obtain ⟨hdigits, hlength⟩ := length_of_scan? hscan
  have hdrop : (Text.dropBlanks t).length ≤ t.length := (List.dropWhile_suffix _).length_le
  have hsize := ofDigitChars_lt hdigits
  obtain ⟨negative, ds⟩ := n'
  have hpos : (0 : Int) < 10 ^ k := by positivity
  cases negative with
  | false =>
    have hle : 10 ^ ds.length ≤ 10 ^ (k + 1) :=
      Nat.pow_le_pow_right (by decide) (by simp at hlength; omega)
    have hlt : Nat.ofDigitChars 10 ds 0 < 10 ^ (k + 1) := lt_of_lt_of_le hsize hle
    have hlt' : (Nat.ofDigitChars 10 ds 0 : Int) < 10 ^ (k + 1) := by exact_mod_cast hlt
    simp only [value]
    constructor
    · simp; omega
    · simpa using hlt'
  | true =>
    have hle : 10 ^ ds.length ≤ 10 ^ k :=
      Nat.pow_le_pow_right (by decide) (by simp at hlength; omega)
    have hlt : Nat.ofDigitChars 10 ds 0 < 10 ^ k := lt_of_lt_of_le hsize hle
    have hlt' : (Nat.ofDigitChars 10 ds 0 : Int) < 10 ^ k := by exact_mod_cast hlt
    have hpos' : (0 : Int) < 10 ^ (k + 1) := by positivity
    simp only [value, if_true]
    constructor
    · simpa using hlt'
    · omega

end Numeral

/-- An integer that is read from a short text is small, and smaller still below zero. -/
lemma Text.leadingInt_bounds {t : Text} {v : Int} {k : Nat} (h : Text.leadingInt t = .ok (some v))
    (ht : t.length ≤ k + 1) : -(10 ^ k : Int) < v ∧ v < 10 ^ (k + 1) := by
  unfold Text.leadingInt at h
  split at h
  · cases h
  · rename_i n hn
    unfold Numeral.read at h
    split at h
    · cases h
    · cases h
      exact Numeral.value_bounds hn ht

end Cutscene
