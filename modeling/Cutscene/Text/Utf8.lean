import Cutscene.Text.Bytes

/-!
UTF-8, read by a machine that takes one byte at a time.

The machine knows how many more bytes the character needs that has begun, and the bounds of the
next of them. It refuses the first byte that no character goes on with; what is reported then are
the bytes of the character up to there.
-/

namespace Cutscene

/-- A reading of UTF-8: the characters so far, last one first, and the character that has begun. -/
structure Utf8Reading where
  characters : Text
  position : Nat
  pending : Bytes
  /-- How many more bytes it needs. -/
  owed : Nat
  /-- The bounds of the next of them. -/
  low : UInt8
  high : UInt8

namespace Utf8Reading

/-- Nothing is read yet. -/
def start : Utf8Reading := ⟨[], 0, [], 0, 0x80, 0xBF⟩

/-- The character that has begun, or would begin, is none. -/
def refuse {α : Type} (r : Utf8Reading) (bytes : Bytes) (flaw : Flaw) : Except BadBytes α :=
  throw ⟨.utf8, flaw, r.position - r.pending.length, bytes⟩

/-- The bits that a byte adds to its character. -/
def payload (b : UInt8) : Nat :=
  if b < 0x80 then b.toNat
  else if b < 0xC0 then b.toNat - 0x80
  else if b < 0xE0 then b.toNat - 0xC0
  else if b < 0xF0 then b.toNat - 0xE0
  else b.toNat - 0xF0

/-- The character of some bytes, the first of which tells how many there are. -/
def character (bytes : Bytes) : Char :=
  Char.ofNat (bytes.foldl (fun n b => n * 0x40 + payload b) 0)

/-- A character begins with a byte and needs some more, the next of them between bounds. -/
def begin (r : Utf8Reading) (b : UInt8) (owed : Nat) (low high : UInt8) : Utf8Reading :=
  { r with position := r.position + 1, pending := [b], owed := owed, low := low, high := high }

/-- The first byte of a character. -/
def first (r : Utf8Reading) (b : UInt8) : Except BadBytes Utf8Reading :=
  if b < 0x80 then
    pure { r with characters := Encoding.ofByte b :: r.characters, position := r.position + 1 }
  else if b < 0xC2 then r.refuse [b] .badStart
  else if b < 0xE0 then pure (r.begin b 1 0x80 0xBF)
  else if b = 0xE0 then pure (r.begin b 2 0xA0 0xBF)
  else if b = 0xED then pure (r.begin b 2 0x80 0x9F)
  else if b < 0xF0 then pure (r.begin b 2 0x80 0xBF)
  else if b = 0xF0 then pure (r.begin b 3 0x90 0xBF)
  else if b < 0xF4 then pure (r.begin b 3 0x80 0xBF)
  else if b = 0xF4 then pure (r.begin b 3 0x80 0x8F)
  else r.refuse [b] .badStart

def step (r : Utf8Reading) (b : UInt8) : Except BadBytes Utf8Reading :=
  match r.owed with
  | 0 => r.first b
  | owed + 1 =>
    if r.low ≤ b ∧ b ≤ r.high then
      let bytes := r.pending ++ [b]
      let position := r.position + 1
      match owed with
      | 0 => pure ⟨character bytes :: r.characters, position, [], 0, 0x80, 0xBF⟩
      | owed + 1 => pure ⟨r.characters, position, bytes, owed + 1, 0x80, 0xBF⟩
    else r.refuse r.pending .badContinuation

/-- The characters, unless one has begun and is not complete. -/
def finish (r : Utf8Reading) : Except BadBytes Text :=
  if r.owed = 0 then pure r.characters.reverse else r.refuse r.pending .incomplete

end Utf8Reading

def decodeUtf8 (bytes : Bytes) : Except BadBytes Text := do
  (← bytes.foldlM Utf8Reading.step Utf8Reading.start).finish

end Cutscene
