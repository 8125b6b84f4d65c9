import Cutscene.Action.Kind
import Cutscene.Catalog.Basic
import Cutscene.Table
import Cutscene.Text.Decimal

/-!
The overview of a catalog: a table of its scripts, with the number of their actions, and of the
actions in each category.
-/

namespace Cutscene.Catalog

def columns : List Column :=
  ⟨"Name".toList, false⟩ :: ⟨"Actions".toList, true⟩ :: Category.all.map (⟨·.title, true⟩)

def row (name : Text) (s : Script) : List Text :=
  name :: Text.ofNat s.length :: Category.all.map fun c => Text.ofNat (s.countIn c)

/-- The table of all scripts, in their order. -/
def overview (k : Catalog) : Table :=
  ⟨"Scripts".toList, columns, k.entries.map fun (name, s) => row name s⟩

end Cutscene.Catalog
