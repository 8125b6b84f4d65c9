import Cutscene.Text.Printable

/-!
Texts as they are quoted in messages, and characters written as hexadecimal escapes.

A quoted text stands between single quotes, or between double quotes when it holds a single
quote and no double one. The quote in use and the backslash are escaped, and so is every
character that has no visible form.
-/

namespace Cutscene.Text

/-- A number in lower-case hexadecimal, filled with zeros up to a width. -/
def hex (width n : Nat) : Text := (Nat.toDigits 16 n).leftpad width '0'

/-- A number in upper-case hexadecimal, filled with zeros up to a width. -/
def upperHex (width n : Nat) : Text := (hex width n).map Char.toUpper

def quoteFor (t : Text) : Char :=
  if t.contains '\'' && !t.contains '"' then '"' else '\''

def quoteChar (quote c : Char) : Text :=
  if c = quote || c = '\\' then ['\\', c]
  else if c = '\t' then ['\\', 't']
  else if c = '\n' then ['\\', 'n']
  else if c = '\r' then ['\\', 'r']
  else if isPrintable c then [c]
  else if c.toNat < 0x100 then '\\' :: 'x' :: hex 2 c.toNat
  else if c.toNat < 0x10000 then '\\' :: 'u' :: hex 4 c.toNat
  else '\\' :: 'U' :: hex 8 c.toNat

def quoted (t : Text) : Text :=
  quoteFor t :: t.flatMap (quoteChar (quoteFor t)) ++ [quoteFor t]

end Cutscene.Text
