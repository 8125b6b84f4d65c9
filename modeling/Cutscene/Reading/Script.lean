import Cutscene.Reading.MessageBox
import Cutscene.Reading.Pages

/-!
The body of a script, up to its end marker.

Between two constructs a command is an action, opens a construct, or ends the script. Inside a
construct it belongs to that construct; a message box hands back the command that ended it, which
is then read as if the box had not been there.
-/

namespace Cutscene

/-- The construct that a body is in the middle of. -/
inductive Body.Inside
  | nothing
  | box (frame : BoxFrame) (lines : List Text)
  | pages (p : OpenPages)

structure Body where
  actions : Script
  inside : Body.Inside

namespace Body

def empty : Body := ⟨[], .nothing⟩

/-- The body with some more actions, outside of any construct. -/
def add (actions new : Script) : Body := ⟨actions ++ new, .nothing⟩

/-- A menu remembers what is selected, and fades in once it waits. -/
def menuActions (slot : Int) : Script :=
  [.single (.rememberSelection slot), .single .fadeInBeforeWait]

/-- A command outside of any construct. -/
def feedPlain (actions : Script) (c : Command) : Reply Body Script × Log :=
  match c.keyword? with
  | some .scriptEnd => (.done actions, [])
  | some .pages => (.more ⟨actions, .pages Pages.empty⟩, [])
  | some .menu =>
    match c.unread.int.1 with
    | .error e => (.fail e, [])
    | .ok slot => (.more (add actions (menuActions slot)), [])
  | some .box =>
    match (Take.boxFrame.runOn c.unread).1 with
    | .error e => (.fail e, [])
    | .ok frame => (.more ⟨actions, .box frame []⟩, [])
  | _ =>
    match c.instruction? with
    | .error e => (.fail e, [])
    | .ok none => (.more (add actions []), [c.ignored])
    | .ok (some i) => (.more (add actions [.single i]), [])

def feedBox (actions : Script) (frame : BoxFrame) (lines : List Text) (c : Command) :
    Reply Body Script × Log :=
  match MessageBox.feed lines c with
  | (.more lines, log) => (.more ⟨actions, .box frame lines⟩, log)
  | (.done lines, log) => (.more (add actions [.single (frame.withLines lines)]), log)
  | (.leave lines, log) =>
    let (reply, more) := feedPlain (actions ++ [.single (frame.withLines lines)]) c
    (reply, log ++ more)
  | (.fail e, log) => (.fail e, log)

def feedPages (actions : Script) (p : OpenPages) (c : Command) : Reply Body Script × Log :=
  match Pages.feed p c with
  | (.more p, log) => (.more ⟨actions, .pages p⟩, log)
  | (.done a, log) | (.leave a, log) => (.more (add actions [a]), log)
  | (.fail e, log) => (.fail e, log)

/-- The body so far, and one more command. -/
def feed (b : Body) (c : Command) : Reply Body Script × Log :=
  match b.inside with
  | .nothing => feedPlain b.actions c
  | .box frame lines => feedBox b.actions frame lines c
  | .pages p => feedPages b.actions p c

/-- The end marker that the body misses most urgently. -/
def missing (b : Body) : Keyword :=
  match b.inside with
  | .pages _ => .pagesEnd
  | .nothing | .box _ _ => .scriptEnd

end Body

namespace Script

def body : Construct Body Script where
  feed := Body.feed
  finish b := throw (.unterminated b.missing.token)

def read (c : Cursor) : Outcome Script := body.read Body.empty c

end Script

end Cutscene
