import Cutscene.Catalog.Basic
import Cutscene.Reading.Script

/-!
Loading a whole file of scripts, line by line.

Between two scripts the first word of a line that is not blank names the next script, and the rest
of that line is already part of the script's body. Inside a script only commands count. A fault
ends the loading, and nothing is loaded then.
-/

namespace Cutscene

/-- Where the loading stands. -/
inductive Loading.Stage
  | between
  | inside (name : Text) (body : Body)
  | stopped (fault : Fault)

/-- The scripts so far, where the loading stands, and the number of the next line. -/
structure Loading where
  catalog : Catalog
  stage : Loading.Stage
  log : Log
  line : Int

namespace Loading

def start : Loading := ⟨.empty, .between, [], 1⟩

/-- Go on to the next line in some stage. -/
def goOn (l : Loading) (stage : Stage) (log : Log) : Loading :=
  { l with stage := stage, log := l.log ++ log, line := l.line + 1 }

def complete (l : Loading) (name : Text) (s : Script) (log : Log) : Loading :=
  let warning := if name ∈ l.catalog.names then [Event.redefined name] else []
  { catalog := l.catalog.insert name s
    stage := .between
    log := l.log ++ log ++ warning ++ [.loaded name s.length]
    line := l.line + 1 }

/-- A line, or what is left of it, inside a script. -/
def bodyLine (l : Loading) (name : Text) (b : Body) (t : Text) : Loading :=
  match Command.ofLine? l.line t with
  | none => l.goOn (.inside name b) []
  | some c =>
    match b.feed c with
    | (.more b, log) => l.goOn (.inside name b) log
    | (.done s, log) | (.leave s, log) => l.complete name s log
    | (.fail e, log) => l.goOn (.stopped e) log

def step (l : Loading) (t : Text) : Loading :=
  match l.stage with
  | .stopped _ => l.goOn l.stage []
  | .inside name b => l.bodyLine name b t
  | .between =>
    let rest := Text.dropBlanks t
    match Text.word rest with
    | [] => l.goOn .between []
    | name => l.bodyLine name Body.empty (Text.afterWord rest)

def run (l : Loading) (lines : List Text) : Loading := lines.foldl step l

@[simp] theorem run_nil (l : Loading) : l.run [] = l := rfl

@[simp] theorem run_cons (l : Loading) (t : Text) (ts : List Text) :
    l.run (t :: ts) = (l.step t).run ts := rfl

theorem run_append (l : Loading) (ts us : List Text) : l.run (ts ++ us) = (l.run ts).run us := by
  simp [run, List.foldl_append]

/-- The scripts, if the loading may end here. -/
def result (l : Loading) : Except Fault Catalog :=
  match l.stage with
  | .between => pure l.catalog
  | .inside _ b => throw (.unterminated b.missing.token)
  | .stopped e => throw e

/-- All that was noted, with the number of scripts in the end if they could be loaded. -/
def report (l : Loading) : Log :=
  match l.result with
  | .ok k => l.log ++ [.finished k.size]
  | .error _ => l.log

end Loading

def Loading.ofSource (source : Text) : Loading := Loading.start.run (Text.lines source)

/-- The scripts of a source text. -/
def Catalog.load (source : Text) : Except Fault Catalog := (Loading.ofSource source).result

def Catalog.loadLog (source : Text) : Log := (Loading.ofSource source).report

end Cutscene
