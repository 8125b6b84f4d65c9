import Cutscene.Action.Basic

/-!
The kinds of actions and the categories they are grouped in.

Every kind has a tag, the name it goes by in exported data, and belongs to one category.
-/

namespace Cutscene

inductive Category
  | transition | drawing | newsReporter | menu | flow
deriving DecidableEq, Repr

namespace Category

def all : List Category := [transition, drawing, newsReporter, menu, flow]

def tag : Category → Text
  | transition => "transition".toList
  | drawing => "drawing".toList
  | newsReporter => "news_reporter".toList
  | menu => "menu".toList
  | flow => "flow".toList

def title : Category → Text
  | transition => "Transition".toList
  | drawing => "Drawing".toList
  | newsReporter => "News Reporter".toList
  | menu => "Menu".toList
  | flow => "Flow".toList

theorem mem_all (c : Category) : c ∈ all := by cases c <;> decide

end Category

/-- What an action does, without its details. -/
inductive Kind
  | fadeIn | fadeOut | delay | fadeInBeforeWait
  | text | bigText | sprite | picture | palette | messageBox
  | talk | stopTalking
  | disableMenu | keyBindings | saveSlots | selectionMark | checkBoxes | rememberSelection
  | waitForInput | offsetText | demoAfterTimeout | pages
deriving DecidableEq, Repr

namespace Kind

def all : List Kind :=
  [fadeIn, fadeOut, delay, fadeInBeforeWait, text, bigText, sprite, picture, palette, messageBox,
    talk, stopTalking, disableMenu, keyBindings, saveSlots, selectionMark, checkBoxes,
    rememberSelection, waitForInput, offsetText, demoAfterTimeout, pages]

def tag : Kind → Text
  | fadeIn => "fade_in".toList
  | fadeOut => "fade_out".toList
  | delay => "delay".toList
  | fadeInBeforeWait => "schedule_fade_in".toList
  | text => "draw_text".toList
  | bigText => "draw_big_text".toList
  | sprite => "draw_sprite".toList
  | picture => "show_full_screen_image".toList
  | palette => "set_palette".toList
  | messageBox => "show_message_box".toList
  | talk => "animate_news_reporter".toList
  | stopTalking => "stop_news_reporter_animation".toList
  | disableMenu => "disable_menu_functionality".toList
  | keyBindings => "show_key_bindings".toList
  | saveSlots => "show_save_slots".toList
  | selectionMark => "show_menu_selection_indicator".toList
  | checkBoxes => "setup_check_boxes".toList
  | rememberSelection => "configure_persistent_menu_selection".toList
  | waitForInput => "wait_for_user_input".toList
  | offsetText => "enable_text_offset".toList
  | demoAfterTimeout => "enable_timeout_to_demo".toList
  | pages => "pages".toList

/-- The category that the kind belongs to. -/
def category : Kind → Category
  | fadeIn | fadeOut | delay | fadeInBeforeWait => .transition
  | text | bigText | sprite | picture | palette | messageBox => .drawing
  | talk | stopTalking => .newsReporter
  | disableMenu | keyBindings | saveSlots | selectionMark | checkBoxes | rememberSelection => .menu
  | waitForInput | offsetText | demoAfterTimeout | pages => .flow

theorem mem_all (k : Kind) : k ∈ all := by cases k <;> decide

def ofTag? (t : Text) : Option Kind := all.find? (·.tag = t)

@[simp] theorem ofTag?_tag (k : Kind) : ofTag? k.tag = some k := by cases k <;> decide

theorem tag_injective {j k : Kind} (h : j.tag = k.tag) : j = k :=
  Option.some.inj ((ofTag?_tag j).symm.trans (h ▸ ofTag?_tag k))

end Kind

def Instruction.kind : Instruction → Kind
  | fadeIn => .fadeIn
  | fadeOut => .fadeOut
  | delay _ => .delay
  | fadeInBeforeWait => .fadeInBeforeWait
  | text _ _ _ => .text
  | bigText _ _ _ _ => .bigText
  | sprite _ _ _ _ => .sprite
  | picture _ => .picture
  | palette _ => .palette
  | messageBox _ _ _ _ => .messageBox
  | talk _ => .talk
  | stopTalking => .stopTalking
  | disableMenu => .disableMenu
  | keyBindings => .keyBindings
  | saveSlots _ => .saveSlots
  | selectionMark _ => .selectionMark
  | checkBoxes _ _ => .checkBoxes
  | rememberSelection _ => .rememberSelection
  | waitForInput => .waitForInput
  | offsetText => .offsetText
  | demoAfterTimeout => .demoAfterTimeout

theorem Instruction.kind_ne_pages (i : Instruction) : i.kind ≠ .pages := by
  cases i <;> nofun

def Action.kind : Action → Kind
  | single i => i.kind
  | pages _ _ => .pages

def Action.category (a : Action) : Category := a.kind.category

/-- How many actions of a script belong to a category; pages count as one. -/
def Script.countIn (s : Script) (c : Category) : Nat := s.countP (·.category = c)

end Cutscene
