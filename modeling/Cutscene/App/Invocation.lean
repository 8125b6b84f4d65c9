import Cutscene.App.Options
import Cutscene.Text.Typed

/-!
What a command line asks for.

The program has one group of commands, and each of its commands works on one file. A call for help
wins over anything that is missing or too much, but not over an option that is not known.
-/

namespace Cutscene.App

inductive Task
  | check
  | overview
  | listing (name : Text)
  | dump (name : Option Text) (indent : Int)
deriving DecidableEq, Repr

inductive Refusal
  | help
  /-- The command line makes no sense. -/
  | usage
deriving DecidableEq, Repr

def readLine (g : Grammar) (arguments : List Text) : Except Refusal Line :=
  match Line.read? g arguments with
  | none => throw .usage
  | some l => if l.has .help then throw .help else pure l

/-- The program's own options, and the command of its group with the arguments after it. -/
def readProgram (arguments : List Text) : Except Refusal (Bool × List Text) := do
  let l ← readLine ⟨[.verbose, .help], false⟩ arguments
  match l.positional with
  | [] => throw .usage
  | group :: rest => if group = "script".toList then return (l.has .verbose, rest) else throw .usage

def readIndent (l : Line) : Except Refusal Int :=
  match l.value? .indent with
  | none => pure 2
  | some t =>
    match Text.typedInt? t with
    | none => throw .usage
    | some n => pure n

def readFileOnly (task : Task) (arguments : List Text) : Except Refusal (Text × Task) := do
  match (← readLine ⟨[.help], true⟩ arguments).positional with
  | [path] => return (path, task)
  | _ => throw .usage

def readListing (arguments : List Text) : Except Refusal (Text × Task) := do
  match (← readLine ⟨[.help], true⟩ arguments).positional with
  | [path, name] => return (path, .listing name)
  | _ => throw .usage

def readDump (arguments : List Text) : Except Refusal (Text × Task) := do
  let l ← readLine ⟨[.script, .indent, .help], true⟩ arguments
  match l.positional with
  | [path] => return (path, .dump (l.value? .script) (← readIndent l))
  | _ => throw .usage

def readTask (arguments : List Text) : Except Refusal (Text × Task) := do
  match (← readLine ⟨[.help], false⟩ arguments).positional with
  | [] => throw .usage
  | command :: rest =>
    if command = "check".toList then readFileOnly .check rest
    else if command = "list".toList then readFileOnly .overview rest
    else if command = "show".toList then readListing rest
    else if command = "dump".toList then readDump rest
    else throw .usage

end Cutscene.App
