import Cutscene.Text.Decimal

/-!
What is worth noting while a script file is read.

Each event has a level. A log is shown from some level on, and the levels are ordered by their
severity; two of them are second names for others.
-/

namespace Cutscene

/-- How severe an event is, or has to be. -/
inductive Level
  | critical | fatal | error | warn | warning | info | debug | notset
deriving DecidableEq, Repr

namespace Level

def all : List Level := [critical, fatal, error, warn, warning, info, debug, notset]

def name : Level → Text
  | critical => "CRITICAL".toList
  | fatal => "FATAL".toList
  | error => "ERROR".toList
  | warn => "WARN".toList
  | warning => "WARNING".toList
  | info => "INFO".toList
  | debug => "DEBUG".toList
  | notset => "NOTSET".toList

def ofName? (t : Text) : Option Level := all.find? (·.name = t)

def severity : Level → Nat
  | critical | fatal => 50
  | error => 40
  | warn | warning => 30
  | info => 20
  | debug => 10
  | notset => 0

@[simp] theorem ofName?_name (l : Level) : ofName? l.name = some l := by cases l <;> decide

end Level

inductive Event
  /-- A file is about to be read in an encoding. -/
  | reading (path encoding : Text)
  /-- A command that has no meaning was passed over. -/
  | ignored (command : Text) (line : Int)
  /-- A message box is closed by a command that is not part of it. -/
  | boxEnds (command : Text) (line : Int)
  /-- A script takes the place of an earlier one. -/
  | redefined (name : Text)
  | loaded (name : Text) (actions : Nat)
  /-- All scripts are read. -/
  | finished (scripts : Nat)
deriving DecidableEq, Repr

/-- The events of a piece of work, in the order in which they happened. -/
abbrev Log := List Event

namespace Event

def level : Event → Level
  | reading _ _ | ignored _ _ | boxEnds _ _ | loaded _ _ => .debug
  | redefined _ => .warning
  | finished _ => .info

def message : Event → Text
  | reading path encoding => "Reading ".toList ++ path ++ " as ".toList ++ encoding
  | ignored command line =>
      "Ignoring unsupported command '".toList ++ command ++ "' on line ".toList ++ Text.ofInt line
  | boxEnds command line =>
      "Message box ends before '".toList ++ command ++ "' on line ".toList ++ Text.ofInt line
  | redefined name =>
      "Script '".toList ++ name ++ "' is defined more than once, keeping the last one".toList
  | loaded name actions =>
      "Loaded script '".toList ++ name ++ "' with ".toList ++ Text.ofNat actions ++
        " actions".toList
  | finished scripts => "Loaded ".toList ++ Text.ofNat scripts ++ " scripts".toList

end Event

def Log.shown (threshold : Level) (log : Log) : Log :=
  log.filter fun e => threshold.severity ≤ e.level.severity

end Cutscene
