import Cutscene.Listing
import Cutscene.Proofs.Numerals
import Cutscene.Proofs.WellFormed

/-!
Catalogs as they are written.

The written form is the plain one of the format: one command a line, the numbers in decimal with a
space before each, and a text after one space. Texts that end in blanks need something visible
after them, since blanks at the end of a line do not count; the format lets a carriage return end
a text, so a writer may put one there and anything it likes behind it.
-/

namespace Cutscene

/-! ### Texts -/

/-- The first text may stand after the second one at the end of a line, and is no part of it. -/
structure Text.Closes (e t : Text) : Prop where
  newline : '\n' ∉ e
  head : ∀ c ∈ e.head?, c = '\r'
  visible : (∃ c ∈ e, isBlank c = false) ∨ ∀ c ∈ t.getLast?, isBlank c = false

structure Closing where
  after : Text → Text
  closes : ∀ t, (after t).Closes t

namespace Closing

/-- Every text is followed by a carriage return and a remark. -/
def remark : Closing where
  after _ := "\r;".toList
  closes _ := ⟨by decide, by simp, .inl ⟨';', by decide, rfl⟩⟩

/-- A text is followed by nothing unless it ends in a blank. -/
def bare : Closing where
  after t := if t.getLast?.all (!Text.isBlank ·) then [] else remark.after t
  closes t := by
    split
    · rename_i h
      exact ⟨by simp, by simp, .inr fun c hc => by simpa [Option.mem_def.mp hc] using h⟩
    · exact remark.closes t

end Closing

def Text.fields (ns : List Int) : Text := ns.flatMap fun n => ' ' :: ofInt n

/-- A number with zeros before it, to take as many characters as are given. -/
def Text.padded (width n : Nat) : Text :=
  List.replicate (width - (ofNat n).length) '0' ++ ofNat n

def Text.colorMark (color : Int) : Char := Char.ofNat (0xF0 + color.toNat)

/-! ### Lines -/

def Keyword.line (k : Keyword) (arguments : Text) : Text := '/' :: '/' :: (k.token ++ arguments)

/-- A text as the last argument of a command. -/
def Closing.payload (w : Closing) (t : Text) : Text := ' ' :: (t ++ w.after t)

def Closing.boxLine (w : Closing) : Text → Text
  | [] => Keyword.boxBlank.line []
  | t => Keyword.boxText.line (w.payload t)

namespace Instruction

/-- The one-line command that an instruction is written as, and its arguments. -/
def command? (w : Closing) : Instruction → Option (OneLiner × Text)
  | fadeIn => some (.fadeIn, [])
  | fadeOut => some (.fadeOut, [])
  | delay n => some (.delay, Text.fields [n])
  | text x y t => some (.text, Text.fields [x, y] ++ w.payload t)
  | bigText x y color t => some (.text, Text.fields [x, y] ++ w.payload (Text.colorMark color :: t))
  | sprite x y actor frame =>
    some (.text, Text.fields [x - 2, y - 1] ++
      w.payload (spriteMark :: (Text.padded 3 actor.toNat ++ Text.padded 2 frame.toNat)))
  | picture name => some (.picture, ' ' :: name)
  | palette name => some (.palette, ' ' :: name)
  | talk n => some (.talk, Text.fields [n])
  | stopTalking => some (.stopTalking, [])
  | disableMenu => some (.disableMenu, [])
  | keyBindings => some (.keyBindings, [])
  | saveSlots n => some (.saveSlots, Text.fields [n])
  | selectionMark y => some (.selectionMark, Text.fields [y])
  | checkBoxes x boxes =>
    some (.checkBoxes, Text.fields (x :: boxes.length :: boxes.flatMap fun b => [b.y, b.id]))
  | waitForInput => some (.waitForInput, [])
  | offsetText => some (.offsetText, [])
  | demoAfterTimeout => some (.demoAfterTimeout, [])
  | fadeInBeforeWait | messageBox .. | rememberSelection _ => none

/-- The lines of an instruction. The second half of a menu has none; the first stands for both. -/
def sourceLines (w : Closing) (i : Instruction) : List Text :=
  match i with
  | fadeInBeforeWait => []
  | rememberSelection slot => [Keyword.menu.line (Text.fields [slot])]
  | messageBox y width height ls =>
    Keyword.box.line (Text.fields [y, height, width]) :: ls.map w.boxLine
  | _ => (i.command? w).toList.map fun (o, arguments) => (Keyword.oneLiner o).line arguments

end Instruction

namespace Action

def instructions : Action → List Instruction
  | single i => [i]
  | pages first others => (first :: others).flatMap fun page => page.filterMap fun
    | single i => some i
    | pages .. => none

/-- The lines of an action on a page, where no pages can be. -/
def pageSource (w : Closing) : Action → List Text
  | single i => i.sourceLines w
  | pages .. => []

/-- The lines of an action. The first page follows the opening command at once. -/
def sourceLines (w : Closing) : Action → List Text
  | single i => i.sourceLines w
  | pages first others =>
    Keyword.pages.line [] :: (first.flatMap (pageSource w) ++
      others.flatMap (fun page => Keyword.page.line [] :: page.flatMap (pageSource w)) ++
      [Keyword.pagesEnd.line []])

end Action

/-- The lines of a script below its name. -/
def Script.sourceLines (w : Closing) (s : Script) : List Text :=
  s.flatMap (Action.sourceLines w) ++ [Keyword.scriptEnd.line []]

namespace Catalog

def sourceLines (w : Closing) (k : Catalog) : List Text :=
  k.entries.flatMap fun (name, s) => name :: Script.sourceLines w s

/-- The catalog as a source text, without a line break after the last line. -/
def write (w : Closing) (k : Catalog) : Text := ['\n'].intercalate (k.sourceLines w)

end Catalog

/-! ### What can be written -/

namespace Instruction

def counts : Instruction → List Nat
  | checkBoxes _ boxes => [boxes.length]
  | _ => []

/-- The numbers that have no room for a sign. -/
def unsigned : Instruction → List Int
  | sprite _ _ actor frame => [actor, frame]
  | _ => []

/-- The numbers leave room for one more digit, since a sprite is written beside its place, and
those of an actor and of a frame are not negative. -/
structure Presentable (i : Instruction) : Prop where
  numbers : ∀ n ∈ i.numbers, n.natAbs < 10 ^ (digitLimit - 1)
  counts : ∀ n ∈ i.counts, n < 10 ^ (digitLimit - 1)
  unsigned : ∀ n ∈ i.unsigned, 0 ≤ n

instance (i : Instruction) : Decidable i.Presentable :=
  decidable_of_iff ((∀ n ∈ i.numbers, n.natAbs < 10 ^ (digitLimit - 1)) ∧
      (∀ n ∈ i.counts, n < 10 ^ (digitLimit - 1)) ∧ ∀ n ∈ i.unsigned, 0 ≤ n)
    ⟨fun ⟨hn, hc, hu⟩ => ⟨hn, hc, hu⟩, fun ⟨hn, hc, hu⟩ => ⟨hn, hc, hu⟩⟩

end Instruction

/-- A well-formed catalog in which all numbers can be written. -/
structure Catalog.Presentable (k : Catalog) : Prop extends k.WellFormed where
  presentable : ∀ e ∈ k.entries, ∀ a ∈ e.2, ∀ i ∈ a.instructions, i.Presentable

instance (k : Catalog) : Decidable k.Presentable :=
  decidable_of_iff (k.WellFormed ∧
      ∀ e ∈ k.entries, ∀ a ∈ e.2, ∀ i ∈ a.instructions, i.Presentable)
    ⟨fun ⟨hw, hp⟩ => ⟨hw, hp⟩, fun ⟨hw, hp⟩ => ⟨hw, hp⟩⟩

end Cutscene
