import Cutscene.Text.Decimal
import Cutscene.Text.Quoted

/-!
What can go wrong with a script file.

An error in a script names the command it is about and, where there is one, the line that the
command stands on; the line closes the message. A number with too many digits is a fault of its
own, because it belongs to no command.
-/

namespace Cutscene

/-- The kinds of errors that are told apart. -/
inductive ErrorKind
  /-- An error of no particular kind. -/
  | general
  /-- A number is out of range, or a name is missing. -/
  | badArgument
  /-- The text of a command is missing or broken. -/
  | corruptText
  /-- A command stands where it does not belong. -/
  | misplaced
  /-- The file ends inside a construct. -/
  | unterminated
deriving DecidableEq, Repr

/-- What is wrong with a command. -/
inductive Cause
  | badArgument
  | emptyText
  /-- The text of a sprite is too short to hold all digits. -/
  | shortSprite
  /-- The text of a sprite has something else where the digits should be. -/
  | badSprite (digits : Text)
  | misplaced
  /-- The command never comes. -/
  | unterminated
  /-- Anything else, in the words of whoever found it. -/
  | other (kind : ErrorKind) (reason : Text)
deriving DecidableEq, Repr

namespace Cause

def kind : Cause → ErrorKind
  | badArgument => .badArgument
  | emptyText | shortSprite | badSprite _ => .corruptText
  | misplaced => .misplaced
  | unterminated => .unterminated
  | other kind _ => kind

def reason (command : Text) : Cause → Text
  | badArgument => "Invalid ".toList ++ command ++ " command in Duke Script file".toList
  | emptyText => corrupt ++ "empty ".toList ++ command ++ " payload".toList
  | shortSprite => corrupt ++ "XYTEXT sprite payload too short".toList
  | badSprite digits => corrupt ++ "invalid XYTEXT sprite payload ".toList ++ Text.quoted digits
  | misplaced => "The command ".toList ++ command ++ " is not allowed in this context".toList
  | unterminated => "Missing end marker '".toList ++ command ++ "' in Duke Script file".toList
  | other _ reason => reason
where
  corrupt : Text := "Corrupt Duke Script file: ".toList

end Cause

/-- An error in a script: its cause, the token of the command that it is about, and the line that
the command stands on. -/
structure ScriptError where
  cause : Cause
  command : Option Text
  line : Option Int
deriving DecidableEq, Repr

namespace ScriptError

def kind (e : ScriptError) : ErrorKind := e.cause.kind

def reason (e : ScriptError) : Text := e.cause.reason (e.command.getD [])

/-- The error in words, with its line in brackets if it has one. -/
def message (e : ScriptError) : Text :=
  match e.line with
  | none => e.reason
  | some n => e.reason ++ " (line ".toList ++ Text.ofInt n ++ ")".toList

/-- The end of a construct is not tied to a line, since it never came. -/
def unterminated (marker : Text) : ScriptError := ⟨.unterminated, marker, none⟩

end ScriptError

/-- Everything that stops the work on a script. -/
inductive Fault
  | script (e : ScriptError)
  /-- A numeral in a text has more digits than may be read. -/
  | numeralTooLong (digits : Nat)
  /-- A number has more digits than may be written. -/
  | numberTooLong
  /-- A choice of pages has no page. -/
  | noPages
deriving DecidableEq, Repr

namespace Fault

def unterminated (marker : Text) : Fault := .script (.unterminated marker)

def message : Fault → Text
  | script e => e.message
  | numeralTooLong digits =>
      tooManyDigits ++ ": value has ".toList ++ Text.ofNat digits ++ " digits".toList ++ advice
  | numberTooLong => tooManyDigits ++ advice
  | noPages => "PagesDefinition requires at least one page".toList
where
  tooManyDigits : Text :=
    "Exceeds the limit (".toList ++ Text.ofNat digitLimit ++
      " digits) for integer string conversion".toList
  advice : Text := "; use sys.set_int_max_str_digits() to increase the limit".toList

end Fault

def Numeral.read (n : Numeral) : Except Fault Int :=
  if n.tooLong then throw (.numeralTooLong n.digits.length) else pure n.value

/-- The integer at the start of a text, after any blanks. -/
def Text.leadingInt (t : Text) : Except Fault (Option Int) :=
  match Numeral.leading? t with
  | none => pure none
  | some n => some <$> n.read

end Cutscene
