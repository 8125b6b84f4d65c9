import Cutscene.Text.Decimal

/-!
Integers as they are typed.

Blanks may stand around a number, and a sign before it. A number may have a fraction, as long as
that is zero. Single underscores may stand between its digits; among the zeros that it starts with
there may be any underscores, and those zeros do not count towards its length. After such zeros a
number without a sign may still turn negative, so 0-1 is minus one.
-/

namespace Cutscene.Text

/-- The blanks outside of ASCII. -/
def wideBlanks : List Nat :=
  [0x85, 0xA0, 0x1680, 0x2000, 0x2001, 0x2002, 0x2003, 0x2004, 0x2005, 0x2006, 0x2007, 0x2008,
    0x2009, 0x200A, 0x2028, 0x2029, 0x202F, 0x205F, 0x3000]

def isTypedBlank (c : Char) : Bool := isBlank c || c.toNat ∈ wideBlanks

/-- The text without the blanks at either end, those outside of ASCII included. -/
def trimTyped (t : Text) : Text :=
  ((t.dropWhile isTypedBlank).reverse.dropWhile isTypedBlank).reverse

/-- The digits of a text that has single underscores between some of them. -/
def groupedDigits? (t : Text) : Option Text :=
  let groups := t.splitOn '_'
  if groups.all fun g => !g.isEmpty && g.all Char.isDigit then some groups.flatten else none

/-- A negative number whose minus sign comes after zeros. An underscore may follow the sign, and
there are no further zeros. -/
def lateNegative? (t : Text) : Option Numeral := do
  let digits ← groupedDigits? (if t.head? = some '_' then t.tail else t)
  if digits.head? = some '0' && digits ≠ ['0'] then none else some ⟨true, digits⟩

/-- The number in a text without a sign, made negative or not. The zeros that it starts with are
left out, but zero keeps one. -/
def wholeNumeral? (negative : Bool) (t : Text) : Option Numeral :=
  if t.head? = some '0' then
    match t.dropWhile fun c => c = '0' || c = '_' with
    | [] => if t.getLast? = some '0' then some ⟨negative, ['0']⟩ else none
    | '-' :: rest => if negative then none else lateNegative? rest
    | rest => (groupedDigits? rest).map (⟨negative, ·⟩)
  else (groupedDigits? t).map (⟨negative, ·⟩)

/-- The whole part of a number, which is all of it unless there is a fraction. -/
def wholePart? (t : Text) : Option Text :=
  match t.dropWhile (· ≠ '.') with
  | [] => some t
  | _ :: fraction =>
    if !fraction.isEmpty && fraction.all (· = '0') then some (t.takeWhile (· ≠ '.')) else none

/-- The integer that the text is, if it is one and not too long. -/
def typedInt? (t : Text) : Option Int := do
  let (negative, body) := Numeral.sign (trimTyped t)
  let n ← wholeNumeral? negative (← wholePart? body)
  if n.tooLong then none else some n.value

end Cutscene.Text
