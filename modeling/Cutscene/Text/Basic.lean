/-!
Text as a list of characters, and its blanks.

The blanks are space, tab, newline, carriage return, vertical tab and form feed. No other
character separates words, so a high byte such as 0xA0 is part of the word it stands in.
-/

namespace Cutscene

/-- A piece of text, one character per code point. -/
abbrev Text := List Char

namespace Text

instance : LawfulBEq Text := inferInstance

/-- The character separates words. -/
def isBlank (c : Char) : Bool :=
  c == ' ' || c == '\t' || c == '\n' || c == '\r' || c == '\x0b' || c == '\x0c'

def dropBlanks (t : Text) : Text := t.dropWhile isBlank

/-- The text without the blanks at its end. -/
def trimEnd (t : Text) : Text := (t.reverse.dropWhile isBlank).reverse

def trim (t : Text) : Text := trimEnd (dropBlanks t)

/-- The characters before the first blank. -/
def word (t : Text) : Text := t.takeWhile (!isBlank ·)

/-- The text from its first blank on. -/
def afterWord (t : Text) : Text := t.dropWhile (!isBlank ·)

@[simp] theorem isBlank_newline : isBlank '\n' = true := rfl

theorem takeWhile_isBlank_append_dropBlanks (t : Text) :
    t.takeWhile isBlank ++ dropBlanks t = t :=
  List.takeWhile_append_dropWhile

theorem word_append_afterWord (t : Text) : word t ++ afterWord t = t :=
  List.takeWhile_append_dropWhile

theorem not_isBlank_of_mem_word {t : Text} {c : Char} (h : c ∈ word t) : isBlank c = false := by
  simpa using List.all_eq_true.mp List.all_takeWhile c h

theorem dropBlanks_cons_of_isBlank {c : Char} (h : isBlank c = true) (t : Text) :
    dropBlanks (c :: t) = dropBlanks t := by
  simp [dropBlanks, h]

theorem dropBlanks_cons_of_not_isBlank {c : Char} (h : isBlank c = false) (t : Text) :
    dropBlanks (c :: t) = c :: t := by
  simp [dropBlanks, h]

@[simp] theorem dropBlanks_nil : dropBlanks [] = [] := rfl

@[simp] theorem trim_nil : trim [] = [] := rfl

end Text

end Cutscene
