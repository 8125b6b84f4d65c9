import Cutscene.Reading.Script
import Cutscene.Reading.Stream

/-!
Sessions: many requests to one cursor.

A session reads one source text. Its cursor is where the last request left it, also when that
request failed. Positions are kept in bookmarks, and streams of commands stay open under names;
all of them move the same cursor.
-/

namespace Cutscene

/-- A source text, the position in it, and what is kept under names. -/
structure Session where
  source : Text
  cursor : Cursor
  bookmarks : List (Text × Cursor)
  streams : List (Text × CommandStream)

namespace Session

inductive Request
  | atEnd
  | skipBlanks
  | word
  | line
  /-- Keep the position in a bookmark. -/
  | keep (slot : Text)
  /-- Go back to a bookmark. -/
  | back (slot : Text)
  /-- Go to any offset, which is taken to lie on the given line. -/
  | goTo (offset : Nat) (line : Int)
  | command
  /-- A command, and the instruction that it is. -/
  | instruction
  | commands (marker : Text)
  /-- Open a stream of commands up to a marker. -/
  | openStream (slot marker : Text)
  /-- The next command of a stream. -/
  | next (slot : Text)
  | boxLines
  | box
  | pages
  | script
deriving DecidableEq, Repr

/-- What a request is answered with. -/
inductive Answer
  | nothing
  | flag (b : Bool)
  | text (t : Text)
  | command (c : Command)
  | commands (cs : List Command)
  | instruction (c : Command) (i : Option Instruction)
  | lines (ts : List Text)
  | action (a : Action)
  | script (s : Script)
  | fault (e : Fault)

def ofSource (source : Text) : Session := ⟨source, Cursor.start source, [], []⟩

/-- The answer after which the cursor is somewhere. -/
def moved (s : Session) (a : Answer) (c : Cursor) : Answer × Session := (a, { s with cursor := c })

def came {α : Type} (s : Session) (o : Outcome α) (answer : α → Answer) : Answer × Session :=
  match o.result with
  | .ok a => s.moved (answer a) o.cursor
  | .error e => s.moved (.fault e) o.cursor

/-- Read a command, and go on with it. -/
def withCommand (s : Session) (k : Command → Cursor → Answer × Session) : Answer × Session :=
  match s.cursor.command? with
  | none => s.moved .nothing s.cursor.toEnd
  | some (c, after) => k c after

/-- The answer to a request, and the session after it. -/
def perform (s : Session) : Request → Answer × Session
  | .atEnd => (.flag s.cursor.atEnd, s)
  | .skipBlanks => s.moved .nothing s.cursor.skipBlanks
  | .word => s.moved (.text s.cursor.word.1) s.cursor.word.2
  | .line =>
    match s.cursor.line? with
    | none => (.nothing, s)
    | some (t, after) => s.moved (.text t) after
  | .keep slot => (.nothing, { s with bookmarks := (slot, s.cursor) :: s.bookmarks })
  | .back slot => s.moved .nothing ((s.bookmarks.lookup slot).getD s.cursor)
  | .goTo offset line => s.moved .nothing (Cursor.seek s.source offset line)
  | .command => s.withCommand fun c after => s.moved (.command c) after
  | .instruction => s.withCommand fun c after =>
    match c.instruction? with
    | .ok i => s.moved (.instruction c i) after
    | .error e => s.moved (.fault e) after
  | .commands marker => s.came ((Construct.commands marker).read [] s.cursor) .commands
  | .openStream slot marker =>
    (.nothing, { s with streams := (slot, .toMarker marker) :: s.streams })
  | .next slot =>
    match s.streams.lookup slot with
    | none => (.nothing, s)
    | some stream =>
      let (result, stream, after) := stream.next s.cursor
      let s := { s with streams := (slot, stream) :: s.streams }
      match result with
      | .ok none => s.moved .nothing after
      | .ok (some c) => s.moved (.command c) after
      | .error e => s.moved (.fault e) after
  | .boxLines => s.came (MessageBox.readLines s.cursor) .lines
  | .box => s.withCommand fun c after =>
    s.came (MessageBox.read c after) fun i => .action (.single i)
  | .pages => s.came (Pages.read s.cursor) .action
  | .script => s.came (Script.read s.cursor) .script

/-- The answers to some requests, each with the cursor after it. -/
def answers (s : Session) : List Request → List (Answer × Cursor)
  | [] => []
  | r :: rs =>
    let (a, s) := s.perform r
    (a, s.cursor) :: answers s rs

end Session

end Cutscene
