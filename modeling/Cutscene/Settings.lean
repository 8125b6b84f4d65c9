import Cutscene.Log

/-!
Settings, taken from the variables of the environment.

The names of variables are the same in small and capital letters. A variable that is not set leaves
its setting at the default; one that is set to something else than its setting may be is a problem.
-/

namespace Cutscene

abbrev Environment := List (Text × Text)

/-- How script files are read, and how much is logged. -/
structure Settings where
  /-- The name of the encoding of script files. -/
  encoding : Text
  logLevel : Level
  debug : Bool
deriving DecidableEq, Repr

namespace Settings

/-- What is wrong with a variable. -/
inductive Problem
  | unknownLevel (given : Text)
  | notBoolean
deriving DecidableEq, Repr

def Problem.message : Problem → Text
  | unknownLevel given => "Unknown log level: ".toList ++ given
  | notBoolean => "Debug is neither on nor off".toList

/-- The capital form of a character, where it is a letter of ASCII or more than one. -/
def capital (c : Char) : Text :=
  match c with
  | 'ı' => ['I']
  | 'ſ' => ['S']
  | 'ß' => ['S', 'S']
  | 'ﬀ' => ['F', 'F']
  | 'ﬁ' => ['F', 'I']
  | 'ﬂ' => ['F', 'L']
  | 'ﬃ' => ['F', 'F', 'I']
  | 'ﬄ' => ['F', 'F', 'L']
  | 'ﬅ' | 'ﬆ' => ['S', 'T']
  | c => [c.toUpper]

/-- The level that a text names, in small or capital letters. -/
def level? (t : Text) : Option Level := Level.ofName? (t.flatMap capital)

def onWords : List Text :=
  ["1".toList, "on".toList, "t".toList, "true".toList, "y".toList, "yes".toList]

def offWords : List Text :=
  ["0".toList, "off".toList, "f".toList, "false".toList, "n".toList, "no".toList]

/-- What a word says that turns something on or off. -/
def switch? (t : Text) : Option Bool :=
  let word := t.map Char.toLower
  if word ∈ onWords then some true else if word ∈ offWords then some false else none

def lookup? (env : Environment) (name : Text) : Option Text :=
  (env.find? fun v => v.1.map Char.toLower = name).map Prod.snd

def levelIn (env : Environment) : Except Problem Level :=
  match lookup? env "log_level".toList with
  | none => pure .warning
  | some t =>
    match level? t with
    | some l => pure l
    | none => throw (.unknownLevel t)

def debugIn (env : Environment) : Except Problem Bool :=
  match lookup? env "debug".toList with
  | none => pure false
  | some t =>
    match switch? t with
    | some b => pure b
    | none => throw .notBoolean

/-- The settings of an environment, or all that is wrong with it. -/
def ofEnvironment (env : Environment) : Except (List Problem) Settings :=
  let encoding := (lookup? env "script_encoding".toList).getD "latin-1".toList
  match levelIn env, debugIn env with
  | .ok level, .ok debug => pure ⟨encoding, level, debug⟩
  | .error p, .ok _ | .ok _, .error p => throw [p]
  | .error p, .error q => throw [p, q]

/-- The level from which on the log is shown; debugging shows all of it. -/
def effectiveLevel (s : Settings) : Level := if s.debug then .debug else s.logLevel

end Settings

end Cutscene
