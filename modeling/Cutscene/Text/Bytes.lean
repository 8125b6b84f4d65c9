import Cutscene.Text.Decimal
import Cutscene.Text.Quoted

/-!
Bytes that are to be text, and what is told of those that are none.
-/

namespace Cutscene

abbrev Bytes := List UInt8

/-- A way to read bytes as characters. -/
inductive Encoding
  | latin1 | ascii | utf8
deriving DecidableEq, Repr

namespace Encoding

def title : Encoding → Text
  | latin1 => "latin-1".toList
  | ascii => "ascii".toList
  | utf8 => "utf-8".toList

/-- The character with the number of the byte. -/
def ofByte (b : UInt8) : Char := Char.ofNat b.toNat

end Encoding

inductive Flaw
  | notAscii
  /-- No character starts with the byte. -/
  | badStart
  /-- The character that has begun does not go on with the byte that follows. -/
  | badContinuation
  /-- The bytes end before the character does. -/
  | incomplete
deriving DecidableEq, Repr

def Flaw.message : Flaw → Text
  | notAscii => "ordinal not in range(128)".toList
  | badStart => "invalid start byte".toList
  | badContinuation => "invalid continuation byte".toList
  | incomplete => "unexpected end of data".toList

/-- Bytes that are no character, and the position of the first of them. -/
structure BadBytes where
  encoding : Encoding
  flaw : Flaw
  position : Nat
  bytes : Bytes
deriving DecidableEq, Repr

namespace BadBytes

/-- Several bytes are told by their positions, a single one by its value too. -/
def place (e : BadBytes) : Text :=
  match e.bytes with
  | [b] => "byte 0x".toList ++ Text.hex 2 b.toNat ++ " in position ".toList ++ Text.ofNat e.position
  | bytes =>
      "bytes in position ".toList ++ Text.ofNat e.position ++ "-".toList ++
        Text.ofNat (e.position + bytes.length - 1)

def message (e : BadBytes) : Text :=
  "'".toList ++ e.encoding.title ++ "' codec can't decode ".toList ++ e.place ++ ": ".toList ++
    e.flaw.message

end BadBytes

end Cutscene
