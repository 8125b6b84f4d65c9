import Cutscene.Text.Basic

/-!
The commands that have a meaning.

Most of them say all they have to say on one line. The others belong to a construct of several
lines, or stand for more than one action, or end a script.
-/

namespace Cutscene

/-- A command that is one instruction, with all its arguments on its own line. -/
inductive OneLiner
  | fadeIn | fadeOut | delay | talk | stopTalking | disableMenu | keyBindings | saveSlots
  | pressAnyKey | picture | selectionMark | text | palette | waitForInput | offsetText
  | demoAfterTimeout | checkBoxes
deriving DecidableEq, Repr

namespace OneLiner

def all : List OneLiner :=
  [fadeIn, fadeOut, delay, talk, stopTalking, disableMenu, keyBindings, saveSlots, pressAnyKey,
    picture, selectionMark, text, palette, waitForInput, offsetText, demoAfterTimeout, checkBoxes]

def token : OneLiner → Text
  | fadeIn => "FADEIN".toList
  | fadeOut => "FADEOUT".toList
  | delay => "DELAY".toList
  | talk => "BABBLEON".toList
  | stopTalking => "BABBLEOFF".toList
  | disableMenu => "NOSOUNDS".toList
  | keyBindings => "KEYS".toList
  | saveSlots => "GETNAMES".toList
  | pressAnyKey => "PAK".toList
  | picture => "LOADRAW".toList
  | selectionMark => "Z".toList
  | text => "XYTEXT".toList
  | palette => "GETPAL".toList
  | waitForInput => "WAIT".toList
  | offsetText => "SHIFTWIN".toList
  | demoAfterTimeout => "EXITTODEMO".toList
  | checkBoxes => "TOGGS".toList

end OneLiner

/-- A command that has a meaning. -/
inductive Keyword
  | oneLiner (o : OneLiner)
  | pages | page | pagesEnd
  | box | boxText | boxBlank
  | menu
  | scriptEnd
deriving DecidableEq, Repr

namespace Keyword

/-- The commands that have their place in a construct, or are more than one action. -/
def bound : List Keyword := [page, box, boxText, menu, pagesEnd, pages, boxBlank]

def all : List Keyword := OneLiner.all.map oneLiner ++ bound ++ [scriptEnd]

def token : Keyword → Text
  | oneLiner o => o.token
  | pages => "PAGESSTART".toList
  | page => "APAGE".toList
  | pagesEnd => "PAGESEND".toList
  | box => "CENTERWINDOW".toList
  | boxText => "CWTEXT".toList
  | boxBlank => "SKLINE".toList
  | menu => "MENU".toList
  | scriptEnd => "END".toList

/-- The meaning of a token, if it has one. -/
def ofToken? (t : Text) : Option Keyword := all.find? (·.token = t)

@[simp] theorem ofToken?_token (k : Keyword) : ofToken? k.token = some k := by
  cases k with
  | oneLiner o => cases o <;> decide
  | _ => decide

theorem token_of_ofToken? {t : Text} {k : Keyword} (h : ofToken? t = some k) : k.token = t := by
  simpa using List.find?_some h

theorem token_injective {j k : Keyword} (h : j.token = k.token) : j = k :=
  Option.some.inj ((ofToken?_token j).symm.trans (h ▸ ofToken?_token k))

end Keyword

end Cutscene
