import Cutscene.Source.Command

/-!
A position in a source text.

The cursor stands in a line: it holds what is left of that line and the lines below. Its offset
counts the characters before it, line breaks included, and its line number counts from one at
the start of the text. A cursor may also stand beyond the end, where nothing is left to read.
-/

namespace Cutscene

/-- A position in a text, and all that is left to read from there. -/
structure Cursor where
  /-- The unread part of the line the cursor is on. -/
  current : Text
  below : List Text
  offset : Nat
  line : Int
deriving DecidableEq, Repr

/-- The lines of a text; the last one has no line break after it and may be empty. -/
def Text.lines (t : Text) : List Text := t.splitOn '\n'

theorem Text.lines_ne_nil (t : Text) : Text.lines t ≠ [] := List.splitOn_ne_nil _ _

theorem Text.intercalate_lines (t : Text) : ['\n'].intercalate (Text.lines t) = t :=
  List.intercalate_splitOn _

namespace Cursor

/-- The cursor before the given lines. -/
def onLines (lines : List Text) (offset : Nat) (line : Int) : Cursor :=
  match lines with
  | [] => ⟨[], [], offset, line⟩
  | current :: below => ⟨current, below, offset, line⟩

/-- The cursor at an offset of a text, which is taken to lie on the given line. -/
def seek (source : Text) (offset : Nat) (line : Int) : Cursor :=
  onLines (Text.lines (source.drop offset)) offset line

def start (source : Text) : Cursor := seek source 0 1

def lines (c : Cursor) : List Text := c.current :: c.below

theorem lines_onLines {ts : List Text} (h : ts ≠ []) (offset : Nat) (line : Int) :
    (onLines ts offset line).lines = ts := by
  cases ts with
  | nil => exact absurd rfl h
  | cons t ts => rfl

@[simp] theorem lines_seek (source : Text) (offset : Nat) (line : Int) :
    (seek source offset line).lines = Text.lines (source.drop offset) :=
  lines_onLines (Text.lines_ne_nil _) _ _

/-- Nothing is left to read. -/
def atEnd (c : Cursor) : Bool := c.current.isEmpty && c.below.isEmpty

theorem atEnd_iff (c : Cursor) : c.atEnd = true ↔ c.current = [] ∧ c.below = [] := by
  simp [atEnd]

/-- The cursor at the start of the next line, or at the end of the text. -/
def nextLine (c : Cursor) : Cursor :=
  match c.below with
  | [] => ⟨[], [], c.offset + c.current.length, c.line⟩
  | next :: below => ⟨next, below, c.offset + c.current.length + 1, c.line + 1⟩

/-- What is left of the line, and the cursor after it. -/
def line? (c : Cursor) : Option (Text × Cursor) :=
  if c.atEnd then none else some (c.current, c.nextLine)

/-- The cursor after the blanks that lines start with. -/
def skipFrom (current : Text) (below : List Text) (offset : Nat) (line : Int) : Cursor :=
  match below, Text.dropBlanks current with
  | next :: below, [] => skipFrom next below (offset + current.length + 1) (line + 1)
  | below, rest => ⟨rest, below, offset + (current.takeWhile Text.isBlank).length, line⟩

def skipBlanks (c : Cursor) : Cursor := skipFrom c.current c.below c.offset c.line

def word (c : Cursor) : Text × Cursor :=
  let c := c.skipBlanks
  let w := Text.word c.current
  (w, { c with current := Text.afterWord c.current, offset := c.offset + w.length })

/-- The cursor at the end of the text. -/
def endFrom (current : Text) (below : List Text) (offset : Nat) (line : Int) : Cursor :=
  match below with
  | [] => ⟨[], [], offset + current.length, line⟩
  | next :: below => endFrom next below (offset + current.length + 1) (line + 1)

def toEnd (c : Cursor) : Cursor := endFrom c.current c.below c.offset c.line

/-- The first command of some lines, and the cursor after its line. -/
def commandFrom? (current : Text) (below : List Text) (offset : Nat) (line : Int) :
    Option (Command × Cursor) :=
  match Command.ofLine? line current, below with
  | some c, below => some (c, nextLine ⟨current, below, offset, line⟩)
  | none, [] => none
  | none, next :: below => commandFrom? next below (offset + current.length + 1) (line + 1)

/-- The next command, and the cursor after its line. Prose before it is passed over. -/
def command? (c : Cursor) : Option (Command × Cursor) :=
  commandFrom? c.current c.below c.offset c.line

/-- All commands of some lines, each with the cursor after its line. -/
def upcomingFrom (current : Text) (below : List Text) (offset : Nat) (line : Int) :
    List (Command × Cursor) :=
  let here := (Command.ofLine? line current).toList.map
    fun c => (c, nextLine ⟨current, below, offset, line⟩)
  match below with
  | [] => here
  | next :: below => here ++ upcomingFrom next below (offset + current.length + 1) (line + 1)

/-- All commands from here on, each with the cursor after its line. -/
def upcoming (c : Cursor) : List (Command × Cursor) :=
  upcomingFrom c.current c.below c.offset c.line

theorem commandFrom?_eq_head? (current : Text) (below : List Text) (offset : Nat) (line : Int) :
    commandFrom? current below offset line = (upcomingFrom current below offset line).head? := by
  induction below generalizing current offset line with
  | nil =>
    unfold commandFrom? upcomingFrom
    cases Command.ofLine? line current <;> rfl
  | cons next below ih =>
    unfold commandFrom? upcomingFrom
    cases Command.ofLine? line current
    · exact ih _ _ _
    · rfl

theorem command?_eq_head? (c : Cursor) : c.command? = c.upcoming.head? :=
  commandFrom?_eq_head? _ _ _ _

end Cursor

end Cutscene
