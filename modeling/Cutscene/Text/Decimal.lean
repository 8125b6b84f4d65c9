import Cutscene.Text.Basic

/-!
Integers in decimal notation.

A numeral is an optional sign and a run of ASCII digits. A run may have any length and any
number of leading zeros; who reads it decides how long it may be. Numbers are written without
leading zeros, and only a negative one carries a sign.
-/

namespace Cutscene

/-- The most digits that a number may be written with, read or printed. -/
def digitLimit : Nat := 4300

/-- A signed run of decimal digits, as it stands in a text. -/
structure Numeral where
  negative : Bool
  digits : Text
deriving DecidableEq, Repr

namespace Numeral

/-- The integer that the numeral stands for. -/
def value (n : Numeral) : Int :=
  let size : Nat := Nat.ofDigitChars 10 n.digits 0
  if n.negative then -size else size

/-- Leading zeros count, the sign does not. -/
def tooLong (n : Numeral) : Bool := digitLimit < n.digits.length

/-- The sign at the start of a text, and what follows it. -/
def sign : Text → Bool × Text
  | '-' :: t => (true, t)
  | '+' :: t => (false, t)
  | t => (false, t)

/-- The numeral at the very start of a text, and what follows it. -/
def scan? (t : Text) : Option (Numeral × Text) :=
  let (negative, body) := sign t
  match body.takeWhile Char.isDigit with
  | [] => none
  | digits => some (⟨negative, digits⟩, body.dropWhile Char.isDigit)

/-- The numeral that a text starts with, after any blanks. -/
def leading? (t : Text) : Option Numeral := (scan? (Text.dropBlanks t)).map Prod.fst

end Numeral

namespace Text

/-- A natural number in decimal notation. -/
def ofNat (n : Nat) : Text := Nat.toDigits 10 n

def ofInt : Int → Text
  | .ofNat n => ofNat n
  | .negSucc n => '-' :: ofNat (n + 1)

theorem isDigit_of_mem_ofNat {n : Nat} {c : Char} (h : c ∈ ofNat n) : c.isDigit = true :=
  Nat.isDigit_of_mem_toDigits (by decide) (by decide) h

theorem ofDigitChars_ofNat (n : Nat) : Nat.ofDigitChars 10 (ofNat n) 0 = n :=
  Nat.ofDigitChars_toDigits (by decide) (by decide)

end Text

/-- The number has no more digits than may be written. -/
def Writable (n : Int) : Prop := (Text.ofNat n.natAbs).length ≤ digitLimit

instance (n : Int) : Decidable (Writable n) := inferInstanceAs (Decidable (_ ≤ _))

end Cutscene
