import Cutscene.Fault
import Cutscene.Source.Cursor

/-!
Commands taken one at a time, up to an end marker.

Several streams may share one cursor: a stream holds no position of its own, only its marker and
whether it is over. The marker is consumed and not delivered.
-/

namespace Cutscene

/-- Commands up to a marker that have not all been taken yet. -/
structure CommandStream where
  marker : Text
  finished : Bool
deriving DecidableEq, Repr

namespace CommandStream

def toMarker (marker : Text) : CommandStream := ⟨marker, false⟩

/-- The next command, none once the marker has come. A stream that runs out of input fails, and is
over as well. -/
def next (s : CommandStream) (c : Cursor) :
    Except Fault (Option Command) × CommandStream × Cursor :=
  if s.finished then (.ok none, s, c)
  else
    match c.command? with
    | none => (.error (.unterminated s.marker), { s with finished := true }, c.toEnd)
    | some (command, after) =>
      if command.token = s.marker then (.ok none, { s with finished := true }, after)
      else (.ok (some command), s, after)

theorem next_of_finished {s : CommandStream} (h : s.finished = true) (c : Cursor) :
    s.next c = (.ok none, s, c) := by
  simp [next, h]

end CommandStream

end Cutscene
