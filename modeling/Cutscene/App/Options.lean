import Cutscene.Text.Basic

/-!
Options on a command line.

A long option takes its value after an equals sign or from the next argument; short ones may stand
together after one dash, and the value of the last of them may follow at once. Two dashes end the
options. Where a command has commands of its own, the first argument that is no option ends them
as well, because what follows is for that command.
-/

namespace Cutscene.App

/-- The options that any of the commands has. -/
inductive OptionName
  | help | verbose | script | indent
deriving DecidableEq, Repr

namespace OptionName

def long : OptionName → Text
  | help => "help".toList
  | verbose => "verbose".toList
  | script => "script".toList
  | indent => "indent".toList

def short? : OptionName → Option Char
  | verbose => some 'v'
  | script => some 's'
  | help | indent => none

def takesValue : OptionName → Bool
  | script | indent => true
  | help | verbose => false

end OptionName

/-- What a command may have on its line. -/
structure Grammar where
  options : List OptionName
  /-- Options may stand after other arguments. -/
  mixed : Bool
deriving DecidableEq, Repr

namespace Grammar

def long? (g : Grammar) (name : Text) : Option OptionName := g.options.find? (·.long = name)

def short? (g : Grammar) (c : Char) : Option OptionName := g.options.find? (·.short? = some c)

end Grammar

structure Given where
  name : OptionName
  value : Option Text
deriving DecidableEq, Repr

/-- A command line that is being read. -/
structure Line where
  given : List Given
  positional : List Text
  /-- The option that the next argument is the value of. -/
  pending : Option OptionName
  /-- Everything from here on is positional. -/
  closed : Bool
deriving DecidableEq, Repr

namespace Line

def empty : Line := ⟨[], [], none, false⟩

/-- One more option; an option without the value it takes waits for it. -/
def add (l : Line) (name : OptionName) (value : Option Text) : Option Line :=
  match name.takesValue, value with
  | true, none => some { l with pending := some name }
  | false, some _ => none
  | _, _ => some { l with given := l.given ++ [⟨name, value⟩] }

/-- An argument after two dashes. -/
def addLong (g : Grammar) (l : Line) (t : Text) : Option Line := do
  let value := match t.dropWhile (· ≠ '=') with
    | [] => none
    | _ :: value => some value
  l.add (← g.long? (t.takeWhile (· ≠ '='))) value

/-- The characters after one dash. -/
def addShort (g : Grammar) (l : Line) : Text → Option Line
  | [] => some l
  | c :: rest => do
    let name ← g.short? c
    if name.takesValue then l.add name (if rest.isEmpty then none else some rest)
    else addShort g (← l.add name none) rest

/-- An argument that does not belong to an option. -/
def addPositional (g : Grammar) (l : Line) (t : Text) : Line :=
  { l with positional := l.positional ++ [t], closed := !g.mixed }

def step (g : Grammar) (l : Line) (t : Text) : Option Line :=
  match l.pending with
  | some name => some { l with given := l.given ++ [⟨name, some t⟩], pending := none }
  | none =>
    if l.closed then some { l with positional := l.positional ++ [t] }
    else
      match t with
      | ['-', '-'] => some { l with closed := true }
      | '-' :: '-' :: name => l.addLong g name
      | '-' :: c :: rest => l.addShort g (c :: rest)
      | t => some (l.addPositional g t)

/-- The whole line, if it can be read and no option still waits for its value. -/
def read? (g : Grammar) (arguments : List Text) : Option Line := do
  let l ← arguments.foldlM (step g) empty
  if l.pending.isSome then none else some l

def has (l : Line) (name : OptionName) : Bool := l.given.any (·.name = name)

def value? (l : Line) (name : OptionName) : Option Text :=
  (l.given.reverse.find? (·.name = name)).bind Given.value

end Line

end Cutscene.App
