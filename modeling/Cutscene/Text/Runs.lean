import Cutscene.Text.Basic

/-!
Sets of characters that come in runs.

Such a set is a list of edges: the code points at which its runs begin and end, in turn and in
ascending order. The first edge begins a run, the second is the first code point after it.
-/

namespace Cutscene.Text

/-- A code point lies in a run when an odd number of edges lie at or before it. -/
def inRuns (edges : List Nat) (n : Nat) : Bool := (edges.takeWhile (· ≤ n)).length % 2 = 1

@[simp] theorem inRuns_nil (n : Nat) : inRuns [] n = false := rfl

end Cutscene.Text
