import Cutscene.Action.Kind
import Cutscene.Catalog.Basic
import Cutscene.Json

/-!
Scripts as JSON data.

An action becomes an object with the tag of its kind and its fields; a script becomes an array,
and a catalog an object with a member for each script.
-/

namespace Cutscene

def CheckBox.toJson (b : CheckBox) : Json :=
  .object [("y_pos".toList, .number b.y), ("id".toList, .number b.id)]

/-- The fields of an instruction, in the order in which they are exported. -/
def Instruction.fields : Instruction → List (Text × Json)
  | delay n => [("amount".toList, .number n)]
  | text x y t => [("x".toList, .number x), ("y".toList, .number y), ("text".toList, .string t)]
  | bigText x y color t =>
      [("x".toList, .number x), ("y".toList, .number y), ("color_index".toList, .number color),
        ("text".toList, .string t)]
  | sprite x y actor frame =>
      [("x".toList, .number x), ("y".toList, .number y), ("actor_id".toList, .number actor),
        ("frame".toList, .number frame)]
  | picture name => [("image".toList, .string name)]
  | palette name => [("palette_file".toList, .string name)]
  | messageBox y width height lines =>
      [("y".toList, .number y), ("width".toList, .number width), ("height".toList, .number height),
        ("message_lines".toList, .array (lines.map .string))]
  | talk n => [("talk_duration".toList, .number n)]
  | saveSlots n => [("selected_slot".toList, .number n)]
  | selectionMark y => [("y_pos".toList, .number y)]
  | checkBoxes x boxes =>
      [("x_pos".toList, .number x), ("definitions".toList, .array (boxes.map CheckBox.toJson))]
  | rememberSelection n => [("slot".toList, .number n)]
  | fadeIn | fadeOut | fadeInBeforeWait | stopTalking | disableMenu | keyBindings | waitForInput
  | offsetText | demoAfterTimeout => []

/-- An object that says what kind of action it is. -/
def Kind.toJson (k : Kind) (fields : List (Text × Json)) : Json :=
  .object (("type".toList, .string k.tag) :: fields)

namespace Action

mutual

def toJson : Action → Json
  | single i => i.kind.toJson i.fields
  | pages first others =>
      Kind.pages.toJson [("pages".toList, .array (.array (scriptItems first) :: pageItems others))]

def scriptItems : List Action → List Json
  | [] => []
  | a :: as => toJson a :: scriptItems as

def pageItems : List (List Action) → List Json
  | [] => []
  | p :: ps => .array (scriptItems p) :: pageItems ps

end

end Action

def Script.toJson (s : Script) : Json := .array (Action.scriptItems s)

def Catalog.toJson (k : Catalog) : Json := .object (k.entries.map fun (name, s) => (name, s.toJson))

end Cutscene
