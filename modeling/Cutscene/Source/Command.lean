import Cutscene.Source.Arguments

/-!
Command lines.

A line is a command when, without the blanks around it, it starts with two slashes. The slashes
may be more than two and blanks may follow them; then comes the token of the command, and the
rest of the line is its arguments. All other lines are prose.
-/

namespace Cutscene

/-- The text without the slashes at its start. -/
def Text.dropSlashes (t : Text) : Text := t.dropWhile (· = '/')

/-- A command, with the text of its arguments and the number of its line. -/
structure Command where
  token : Text
  arguments : Text
  line : Int
deriving DecidableEq, Repr

namespace Command

/-- The line is a command and not prose. -/
def isCommand (t : Text) : Bool := ['/', '/'].isPrefixOf (Text.trim t)

/-- The command on a line of the given number. A line of mere slashes has the empty token. -/
def ofLine? (line : Int) (t : Text) : Option Command :=
  if isCommand t then
    let body := Text.dropBlanks (Text.dropSlashes (Text.trim t))
    some ⟨Text.word body, Text.afterWord body, line⟩
  else none

/-- The arguments, none of them read. Without a token there is nothing to read. -/
def unread (c : Command) : Arguments := ⟨c.arguments, c.token.isEmpty⟩

def fault (c : Command) (cause : Cause) : Fault := .script ⟨cause, c.token, c.line⟩

@[simp] theorem ofLine?_nil (line : Int) : ofLine? line [] = none := rfl

theorem line_of_ofLine? {line : Int} {t : Text} {c : Command} (h : ofLine? line t = some c) :
    c.line = line := by
  unfold ofLine? at h
  split at h
  · cases h; rfl
  · cases h

end Command

end Cutscene
