import Cutscene.Fault

/-!
The arguments of a command, read from left to right.

A read skips the blanks before a number or a word. When a read finds nothing it fails, and from
then on every read fails: a failed number is zero and a failed text is empty, so a caller may go
on reading and look at the outcome in the end.
-/

namespace Cutscene

/-- The unread part of a command's arguments, and whether a read has failed. -/
structure Arguments where
  rest : Text
  failed : Bool
deriving DecidableEq, Repr

namespace Arguments

def ofText (t : Text) : Arguments := ⟨t, false⟩

/-- Read an integer. A numeral that is too long is consumed, and nothing counts as failed. -/
def int (a : Arguments) : Except Fault Int × Arguments :=
  if a.failed then (.ok 0, a)
  else
    match Numeral.scan? (Text.dropBlanks a.rest) with
    | none => (.ok 0, ⟨Text.dropBlanks a.rest, true⟩)
    | some (n, rest) => (n.read, ⟨rest, false⟩)

def word (a : Arguments) : Text × Arguments :=
  if a.failed then ([], a)
  else
    let rest := Text.dropBlanks a.rest
    (Text.word rest, ⟨Text.afterWord rest, (Text.word rest).isEmpty⟩)

/-- Read everything after one separating character, up to the first carriage return. -/
def text (a : Arguments) : Text × Arguments :=
  match a.failed, a.rest with
  | false, _ :: t => (t.takeWhile (· ≠ '\r'), ⟨t.dropWhile (· ≠ '\r'), false⟩)
  | _, rest => ([], ⟨rest, true⟩)

@[simp] theorem int_of_failed {a : Arguments} (h : a.failed = true) : a.int = (.ok 0, a) := by
  simp [int, h]

@[simp] theorem word_of_failed {a : Arguments} (h : a.failed = true) : a.word = ([], a) := by
  simp [word, h]

@[simp] theorem text_of_failed {a : Arguments} (h : a.failed = true) : a.text = ([], a) := by
  obtain ⟨rest, failed⟩ := a
  subst h
  cases rest <;> rfl

inductive Field
  | int | word | text
deriving DecidableEq, Repr

inductive Value
  | number (n : Int)
  | text (t : Text)
deriving DecidableEq, Repr

def read (a : Arguments) : Field → Except Fault Value × Arguments
  | .int => (.number <$> a.int.1, a.int.2)
  | .word => (.ok (.text a.word.1), a.word.2)
  | .text => (.ok (.text a.text.1), a.text.2)

/-- Read some fields; after each, the value and what is left. -/
def readAll (a : Arguments) : List Field → List (Except Fault Value × Arguments)
  | [] => []
  | f :: fs => a.read f :: readAll (a.read f).2 fs

end Arguments

/-- A computation that reads arguments and may stop at a fault. -/
abbrev Take (α : Type) := ExceptT Fault (StateM Arguments) α

namespace Take

def int : Take Int := ExceptT.mk fun a => a.int

def word : Take Text := ExceptT.mk fun a => (.ok a.word.1, a.word.2)

def text : Take Text := ExceptT.mk fun a => (.ok a.text.1, a.text.2)

/-- The outcome on some arguments, and what is left of them. -/
def runOn {α : Type} (t : Take α) (a : Arguments) : Except Fault α × Arguments := t.run.run a

end Take

end Cutscene
