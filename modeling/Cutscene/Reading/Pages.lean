import Cutscene.Reading.Construct
import Cutscene.Reading.OneLiner

/-!
Pages.

The commands of a block of pages are one-line commands, and marks that start a new page. What
stands before the first mark is the first page, so a block has one page more than it has marks.
-/

namespace Cutscene

/-- Pages that are complete, and the one that is being read. -/
structure OpenPages where
  closed : List Script
  current : Script

namespace Pages

def empty : OpenPages := ⟨[], []⟩

/-- The pages so far, and one more command. -/
def feed (p : OpenPages) (c : Command) : Reply OpenPages Action × Log :=
  match c.keyword? with
  | some .pagesEnd => (.done (.ofPagesAndLast p.closed p.current), [])
  | some .page => (.more ⟨p.closed ++ [p.current], []⟩, [])
  | _ =>
    match c.instruction? with
    | .error e => (.fail e, [])
    | .ok none => (.more p, [c.ignored])
    | .ok (some i) => (.more { p with current := p.current ++ [.single i] }, [])

/-- A block of pages up to its end marker. -/
def block : Construct OpenPages Action where
  feed := feed
  finish _ := throw (.unterminated Keyword.pagesEnd.token)

def read (c : Cursor) : Outcome Action := block.read empty c

end Pages

end Cutscene
