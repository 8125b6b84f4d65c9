import Cutscene.App.Job

/-!
The program: it works on the file that its command line names, prints what there is to print, and
shows its log on standard error.
-/

namespace Cutscene.App

def readEnvironment : IO Environment := do
  let mut env := []
  for name in ["SCRIPT_ENCODING", "script_encoding", "LOG_LEVEL", "log_level", "DEBUG", "debug"] do
    if let some value ← IO.getEnv name then
      env := env ++ [(name.toList, value.toList)]
  return env

def readContents (path : Text) : IO (Option Bytes) := do
  try
    return some (← IO.FS.readBinFile (String.ofList path)).toList
  catch _ =>
    return none

def usage : String :=
  "Usage: cutscene [-v] script (check | list | show | dump) FILE [NAME] [-s NAME] [--indent N]"

def readReport (arguments : List String) : IO Report := do
  let env ← readEnvironment
  match Job.ofArguments env (arguments.map String.toList) with
  | .error r => return r
  | .ok job => return job.run .usual (← readContents (Path.shown job.path))

end Cutscene.App

open Cutscene Cutscene.App in
def main (arguments : List String) : IO UInt32 := do
  let report ← readReport arguments
  for event in report.log do
    IO.eprintln (String.ofList (event.level.name ++ ' ' :: event.message))
  IO.print (String.ofList report.output)
  if let some b := report.breakdown then
    IO.eprintln (String.ofList b.message)
  if report.exitCode = 2 then
    IO.eprintln usage
  return UInt32.ofNat report.exitCode
