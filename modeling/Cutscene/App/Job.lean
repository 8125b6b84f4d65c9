import Cutscene.App.Invocation
import Cutscene.App.Path
import Cutscene.Catalog.Overview
import Cutscene.Export
import Cutscene.Listing
import Cutscene.Reading.Loading
import Cutscene.Settings

/-!
What the program does with a file.

A job ends in a report: the exit code, the lines that are printed, and the events that the log
shows. A bad file or an unknown name is reported on a line of its own; what nobody can mend by
another file or name breaks the job off.
-/

namespace Cutscene.App

inductive Breakdown
  | settings (problems : List Settings.Problem)
  | fault (e : Fault)
  /-- The indentation is beyond what can be counted. -/
  | indentTooLarge
  /-- The indentation is beyond what the machine can hold. -/
  | outOfMemory
deriving DecidableEq, Repr

def Breakdown.message : Breakdown → Text
  | settings problems => "; ".toList.intercalate (problems.map Settings.Problem.message)
  | fault e => e.message
  | indentTooLarge => "The indentation is too large".toList
  | outOfMemory => "There is no memory for the indentation".toList

structure Report where
  exitCode : Nat
  lines : List Text
  log : Log
  breakdown : Option Breakdown
deriving DecidableEq, Repr

namespace Report

def output (r : Report) : Text := r.lines.flatMap (· ++ ['\n'])

def ofRefusal : Refusal → Report
  | .help => ⟨0, [], [], none⟩
  | .usage => ⟨2, [], [], none⟩

def success (lines : List Text) : Report := ⟨0, lines, [], none⟩

/-- A message that ends in a single backslash is printed with two. -/
def closed (message : Text) : Text :=
  match message.reverse with
  | '\\' :: '\\' :: _ => message
  | '\\' :: _ => message ++ ['\\']
  | _ => message

/-- Something is wrong; the remaining lines are advice. -/
def error (message : Text) (advice : List Text) : Report :=
  ⟨1, ("Error: ".toList ++ closed message) :: advice, [], none⟩

def broken (b : Breakdown) (lines : List Text) : Report := ⟨1, lines, [], some b⟩

def withLog (r : Report) (log : Log) : Report := { r with log := log }

end Report

def unknownName (name path : Text) : Text :=
  "No script named '".toList ++ name ++ "' in ".toList ++ path

/-- The line that tells all names. It is printed dimmed, up to a mark at its end. Backslashes before
the mark stand for half as many, and an odd one shows the mark itself. -/
def available (names : List Text) : Text :=
  let line := "Available: ".toList ++ ", ".toList.intercalate names
  let body := (line.reverse.dropWhile (· = '\\')).reverse
  let slashes := line.length - body.length
  body ++ List.replicate (slashes / 2) '\\' ++ if slashes % 2 = 1 then "[/dim]".toList else []

def runCheck (path : Text) (k : Catalog) : Report :=
  .success [path ++ ": ".toList ++ Text.ofNat k.size ++ " scripts OK".toList]

def runOverview (k : Catalog) : Report :=
  .success (if k.entries.isEmpty then ["No scripts found.".toList] else k.overview.lines)

def runListing (path name : Text) (k : Catalog) : Report :=
  match k.find? name with
  | none => .error (unknownName name path) [available k.sortedNames]
  | some s =>
    let heading := "== ".toList ++ name ++ " ==".toList
    if s.isEmpty then .success [heading, "No actions.".toList]
    else
      match s.listing 0 with
      | .ok lines => .success (heading :: lines)
      | .error e => .broken (.fault e) [heading]

/-- The widest indentation that can be counted is one less than this. -/
def indentLimit : Int := 0x8000000000000000

/-- What a machine has memory for. Only an indentation is ever counted; all else is taken to fit. -/
structure Machine where
  /-- The most spaces that an indentation may have. -/
  spaces : Nat
deriving DecidableEq, Repr

/-- The machine that is meant where none is named. -/
def Machine.usual : Machine := ⟨0xFFFFFFFFFF⟩

/-- The catalog as data, unless a number in it is too long. -/
def printed (m : Machine) (indent : Int) (k : Catalog) : Report :=
  if indent < -indentLimit ∨ indentLimit ≤ indent then .broken .indentTooLarge []
  else if m.spaces < indent then .broken .outOfMemory []
  else if ∀ e ∈ k.entries, Script.AllWritable e.2 then .success [k.toJson.render indent]
  else .broken (.fault .numberTooLong) []

def runDump (m : Machine) (path : Text) (name : Option Text) (indent : Int) (k : Catalog) :
    Report :=
  match name with
  | none => printed m indent k
  | some name =>
    match k.find? name with
    | none => .error (unknownName name path) []
    | some s => printed m indent ⟨[(name, s)]⟩

def Task.run (m : Machine) (path : Text) (k : Catalog) : Task → Report
  | check => runCheck path k
  | overview => runOverview k
  | listing name => runListing path name k
  | dump name indent => runDump m path name indent k

/-- Work on the text of a file, and all that was noted. -/
def runOnText (m : Machine) (path : Text) (task : Task) (source : Text) : Report × Log :=
  let report :=
    match Catalog.load source with
    | .ok k => task.run m path k
    | .error (.script e) => .error (path ++ ": ".toList ++ e.message) []
    | .error e => .broken (.fault e) []
  (report, Catalog.loadLog source)

def runOnBytes (m : Machine) (encoding path : Text) (task : Task) (bytes : Bytes) :
    Report × Log :=
  let (report, log) :=
    match bytes.decode encoding with
    | .ok source => runOnText m path task source
    | .error e =>
      (.error (path ++ ": cannot decode as ".toList ++ encoding ++ ": ".toList ++ e.message) [], [])
  (report, .reading path encoding :: log)

/-- A task on a file, with the settings it is done under. -/
structure Job where
  settings : Except (List Settings.Problem) Settings
  verbose : Bool
  path : Text
  task : Task

namespace Job

/-- The job of a command line. Bad settings count at once, unless the log is shown in full and its
level need not be known. -/
def ofArguments (env : Environment) (arguments : List Text) : Except Report Job := do
  let (verbose, rest) ← (readProgram arguments).mapError .ofRefusal
  let settings := Settings.ofEnvironment env
  match verbose, settings with
  | false, .error problems => throw (.broken (.settings problems) [])
  | _, _ =>
    let (path, task) ← (readTask rest).mapError .ofRefusal
    return ⟨settings, verbose, path, task⟩

/-- The report on a job, given the contents of its file if there is one. -/
def run (j : Job) (m : Machine) (contents : Option Bytes) : Report :=
  match contents, j.settings with
  | none, _ => .ofRefusal .usage
  | some _, .error problems => .broken (.settings problems) []
  | some bytes, .ok settings =>
    let (report, log) := runOnBytes m settings.encoding (Path.shown j.path) j.task bytes
    report.withLog (log.shown (if j.verbose then .debug else settings.effectiveLevel))

end Job

/-- The report on a command line that is given in some directory. -/
def run (directory : Directory) (env : Environment) (arguments : List Text)
    (m : Machine := .usual) : Report :=
  match Job.ofArguments env arguments with
  | .error r => r
  | .ok job => job.run m (directory.file? job.path)

end Cutscene.App
