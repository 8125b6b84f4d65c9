import Mathlib.Tactic.Common
import Cutscene.Action.Kind
import Cutscene.Listing
import Cutscene.Proofs.Numerals

/-!
A description tells its instruction.

It starts with the heading of a kind, and no two kinds have the same heading. What follows holds
the values in a fixed order, and every number in it ends before the next character. So the values
are told one after the other; only a text that is shown with escapes is not told from one that holds
the escapes themselves.
-/

namespace Cutscene

/-! ### Escapes -/

namespace Text

lemma exists_of_mem_toDigits {n : Nat} {c : Char} (h : c ∈ Nat.toDigits 16 n) :
    ∃ d < 16, c = d.digitChar := by
  induction n using Nat.strongRecOn with
  | ind n ih =>
    rw [Nat.toDigits_eq_if (by decide)] at h
    split at h
    · rename_i hlt
      exact ⟨n, hlt, List.mem_singleton.mp h⟩
    · rename_i hle
      rcases List.mem_append.mp h with h | h
      · exact ih (n / 16) (Nat.div_lt_self (by omega) (by decide)) h
      · exact ⟨n % 16, Nat.mod_lt _ (by decide), List.mem_singleton.mp h⟩

lemma plain_of_mem_upperHex {width n : Nat} {c : Char} (h : c ∈ upperHex width n) :
    32 ≤ c.toNat ∧ c.toNat < 127 := by
  have hdigit : ∀ d < 16, 32 ≤ d.digitChar.toUpper.toNat ∧ d.digitChar.toUpper.toNat < 127 := by
    decide
  obtain ⟨b, hb, rfl⟩ := List.mem_map.mp h
  rcases List.mem_append.mp hb with hfill | hb
  · rw [List.eq_of_mem_replicate hfill]
    decide
  · obtain ⟨d, hd, rfl⟩ := exists_of_mem_toDigits hb
    exact hdigit d hd

/-- What is shown of a text is plain ASCII. -/
lemma plain_of_mem_visible {t : Text} {c : Char} (h : c ∈ visible t) :
    32 ≤ c.toNat ∧ c.toNat < 127 := by
  obtain ⟨b, -, hb⟩ := List.mem_flatMap.mp h
  split at hb
  · rename_i hplain
    rwa [List.mem_singleton.mp hb]
  · simp only [List.mem_cons] at hb
    rcases hb with rfl | rfl | hb
    · decide
    · decide
    · exact plain_of_mem_upperHex hb

lemma visible_of_plain {t : Text} (h : ∀ c ∈ t, 32 ≤ c.toNat ∧ c.toNat < 127) : visible t = t := by
  induction t with
  | nil => rfl
  | cons c t ih =>
    rw [visible, List.flatMap_cons, if_pos (h c List.mem_cons_self)]
    exact congrArg (c :: ·) (ih fun d hd => h d (List.mem_cons_of_mem _ hd))

@[simp] lemma visible_visible (t : Text) : visible (visible t) = visible t :=
  visible_of_plain fun _ => plain_of_mem_visible

end Text

/-! ### Headings -/

namespace Kind

/-- The word that the descriptions of a kind start with. -/
def heading : Kind → Text
  | fadeIn => "FadeIn".toList
  | fadeOut => "FadeOut".toList
  | delay => "Delay".toList
  | fadeInBeforeWait => "ScheduleFadeIn".toList
  | text => "DrawText".toList
  | bigText => "DrawBigText".toList
  | sprite => "DrawSprite".toList
  | picture => "ShowFullScreenImage".toList
  | palette => "SetPalette".toList
  | messageBox => "ShowMessageBox".toList
  | talk => "AnimateNewsReporter".toList
  | stopTalking => "StopNewsReporterAnimation".toList
  | disableMenu => "DisableMenuFunctionality".toList
  | keyBindings => "ShowKeyBindings".toList
  | saveSlots => "ShowSaveSlots".toList
  | selectionMark => "ShowMenuSelectionIndicator".toList
  | checkBoxes => "SetupCheckBoxes".toList
  | rememberSelection => "ConfigurePersistentMenuSelection".toList
  | waitForInput => "WaitForUserInput".toList
  | offsetText => "EnableTextOffset".toList
  | demoAfterTimeout => "EnableTimeOutToDemo".toList
  | pages => "Pages".toList

def ofHeading? (t : Text) : Option Kind := all.find? (·.heading = t)

lemma ofHeading?_heading (k : Kind) : ofHeading? k.heading = some k := by cases k <;> decide

lemma heading_injective {j k : Kind} (h : j.heading = k.heading) : j = k :=
  Option.some.inj ((ofHeading?_heading j).symm.trans (h ▸ ofHeading?_heading k))

end Kind

lemma Action.word_describe (a : Action) : a.describe.word = a.kind.heading := by
  cases a with
  | single i => cases i <;> rfl
  | pages first others => rfl

/-- **The kind of an action** can be told from its description. -/
lemma Action.kind_eq_of_describe {a b : Action} (h : a.describe = b.describe) : a.kind = b.kind :=
  Kind.heading_injective (by rw [← word_describe, h, word_describe])

/-! ### What follows the heading -/

lemma describePoint_append_inj {x y x' y' : Int} {r r' : Text}
    (h : describePoint x y ++ r = describePoint x' y' ++ r') : x = x' ∧ y = y' ∧ r = r' := by
  have hcomma (n : Int) (r : Text) : Text.EndsNumber (", ".toList ++ (Text.ofInt n ++ r)) :=
    Text.endsNumber_cons (c := ',') rfl _
  have hclose (r : Text) : Text.EndsNumber (")".toList ++ r) :=
    Text.endsNumber_cons (c := ')') rfl _
  simp only [describePoint, List.cons_append, List.append_assoc, List.cons.injEq, true_and] at h
  obtain ⟨hx, h⟩ := Text.ofInt_append_inj (hcomma _ _) (hcomma _ _) h
  obtain ⟨hy, h⟩ := Text.ofInt_append_inj (hclose _) (hclose _) (List.append_cancel_left h)
  exact ⟨hx, hy, List.append_cancel_left h⟩

lemma describeText_inj {t t' : Text} (h : describeText t = describeText t') :
    Text.visible t = Text.visible t' :=
  List.append_cancel_right (List.cons.inj h).2

lemma describeText_visible (t : Text) : describeText (Text.visible t) = describeText t := by
  simp only [describeText, Text.visible_visible]

namespace CheckBox

lemma describe_append_inj {b c : CheckBox} {r r' : Text} (hr : r.EndsNumber) (hr' : r'.EndsNumber)
    (h : b.describe ++ r = c.describe ++ r') : b = c ∧ r = r' := by
  obtain ⟨y, id⟩ := b
  obtain ⟨y', id'⟩ := c
  simp only [describe, List.append_assoc, List.cons_append] at h
  obtain ⟨rfl, hat⟩ := Text.ofInt_append_inj (Text.endsNumber_cons rfl _)
    (Text.endsNumber_cons rfl _) h
  obtain ⟨rfl, hrest⟩ := Text.ofInt_append_inj hr hr' (List.cons.inj hat).2
  exact ⟨rfl, hrest⟩

/-- The check boxes after the first one, and the end of their list. -/
def describeOthers (boxes : List CheckBox) : Text :=
  boxes.flatMap (", ".toList ++ describe ·) ++ "]".toList

lemma endsNumber_describeOthers (boxes : List CheckBox) : (describeOthers boxes).EndsNumber := by
  cases boxes with
  | nil => exact Text.endsNumber_cons (c := ']') rfl _
  | cons b bs => exact Text.endsNumber_cons (c := ',') rfl _

lemma describeOthers_cons (b : CheckBox) (bs : List CheckBox) :
    describeOthers (b :: bs) = ", ".toList ++ (b.describe ++ describeOthers bs) := by
  simp only [describeOthers, List.flatMap_cons, List.append_assoc]

lemma describeOthers_injective {bs cs : List CheckBox}
    (h : describeOthers bs = describeOthers cs) : bs = cs := by
  induction bs generalizing cs with
  | nil =>
    cases cs with
    | nil => rfl
    | cons c cs => exact absurd (List.head_eq_of_cons_eq h) (by decide)
  | cons b bs ih =>
    cases cs with
    | nil => exact absurd (List.head_eq_of_cons_eq h) (by decide)
    | cons c cs =>
      rw [describeOthers_cons, describeOthers_cons] at h
      obtain ⟨rfl, hothers⟩ := describe_append_inj (endsNumber_describeOthers bs)
        (endsNumber_describeOthers cs) (List.append_cancel_left h)
      rw [ih hothers]

/-- The check boxes of a list, up to its end. -/
def describeAll : List CheckBox → Text
  | [] => "]".toList
  | b :: bs => b.describe ++ describeOthers bs

lemma intercalate_describe (bs : List CheckBox) :
    ", ".toList.intercalate (bs.map describe) ++ "]".toList = describeAll bs := by
  induction bs with
  | nil => rfl
  | cons b bs ih =>
    cases bs with
    | nil => simp [describeAll, describeOthers]
    | cons c cs =>
      rw [List.map_cons, List.map_cons, List.intercalate_cons_cons, ← List.map_cons,
        List.append_assoc, List.append_assoc, ih, describeAll, describeAll, describeOthers_cons]

/-- A number starts with a digit or with a minus sign, and the end of the list with neither. -/
lemma describe_append_ne (b : CheckBox) (r : Text) : b.describe ++ r ≠ "]".toList := by
  obtain ⟨y, id⟩ := b
  intro h
  have hat : Text.EndsNumber ('@' :: (Text.ofInt y ++ r)) := Text.endsNumber_cons rfl _
  have hscan := Numeral.scan?_ofInt id hat
  simp only [describe, List.append_assoc, List.cons_append] at h
  rw [h] at hscan
  cases hscan

lemma describeAll_injective {bs cs : List CheckBox} (h : describeAll bs = describeAll cs) :
    bs = cs := by
  cases bs with
  | nil =>
    cases cs with
    | nil => rfl
    | cons c cs => exact absurd h.symm (describe_append_ne c _)
  | cons b bs =>
    cases cs with
    | nil => exact absurd h (describe_append_ne b _)
    | cons c cs =>
      obtain ⟨rfl, hothers⟩ := describe_append_inj (endsNumber_describeOthers bs)
        (endsNumber_describeOthers cs) h
      rw [describeOthers_injective hothers]

end CheckBox

/-! ### Actions as they are shown -/

/-- The instruction with its texts as they are shown. -/
def Instruction.shown : Instruction → Instruction
  | text x y t => text x y (Text.visible t)
  | bigText x y color t => bigText x y color (Text.visible t)
  | messageBox y width height lines => messageBox y width height (lines.map Text.visible)
  | i => i

namespace Instruction

lemma describe_shown (i : Instruction) : i.shown.describe = i.describe := by
  cases i with
  | text x y t =>
    rw [shown]
    unfold describe
    simp only [describeText_visible]
  | bigText x y color t =>
    rw [shown]
    unfold describe
    simp only [describeText_visible]
  | messageBox y width height lines =>
    rw [shown]
    unfold describe
    simp only [List.length_map]
  | _ => rfl

lemma boxLines_shown (i : Instruction) : i.shown.boxLines = i.boxLines.map Text.visible := by
  cases i <;> rfl

/-- **An instruction as it is shown** can be told from its description and the lines below it. -/
lemma shown_of_describe {i j : Instruction} (h : i.describe = j.describe)
    (hlines : i.boxLines.map Text.visible = j.boxLines.map Text.visible) : i.shown = j.shown := by
  have hkind : i.kind = j.kind := Action.kind_eq_of_describe (a := .single i) (b := .single j) h
  have hspace (r : Text) : Text.EndsNumber (' ' :: r) := Text.endsNumber_cons rfl r
  -- descriptions of two kinds differ in their first word, so both instructions are of one kind
  cases i <;> cases j <;> first
    | cases hkind; done
    | unfold describe at h
  case delay.delay n m | talk.talk n m | saveSlots.saveSlots n m | selectionMark.selectionMark n m
      | rememberSelection.rememberSelection n m =>
    rw [Text.ofInt_injective (List.append_cancel_left h)]
  case picture.picture name name' | palette.palette name name' => rw [List.append_cancel_left h]
  case text.text x y t x' y' t' =>
    simp only [List.append_assoc] at h
    obtain ⟨rfl, rfl, htext⟩ := describePoint_append_inj (List.append_cancel_left h)
    rw [shown, shown, describeText_inj (List.cons.inj htext).2]
  case bigText.bigText x y color t x' y' color' t' =>
    simp only [List.append_assoc] at h
    obtain ⟨rfl, rfl, hcolor⟩ := describePoint_append_inj (List.append_cancel_left h)
    obtain ⟨rfl, htext⟩ := Text.ofInt_append_inj (hspace _) (hspace _)
      (List.append_cancel_left hcolor)
    rw [shown, shown, describeText_inj (List.cons.inj htext).2]
  case sprite.sprite x y actor frame x' y' actor' frame' =>
    have hframe (n : Int) : Text.EndsNumber (" frame ".toList ++ Text.ofInt n) := hspace _
    simp only [List.append_assoc] at h
    obtain ⟨rfl, rfl, hactor⟩ := describePoint_append_inj (List.append_cancel_left h)
    obtain ⟨rfl, hrest⟩ := Text.ofInt_append_inj (hframe _) (hframe _)
      (List.append_cancel_left hactor)
    rw [Text.ofInt_injective (List.append_cancel_left hrest)]
  case messageBox.messageBox y width height lines y' width' height' lines' =>
    have hlast (t : Text) : Text.EndsNumber (", ".toList ++ t) :=
      Text.endsNumber_cons (c := ',') rfl _
    simp only [List.append_assoc, List.cons_append] at h
    obtain ⟨rfl, hsize⟩ := Text.ofInt_append_inj (hspace _) (hspace _) (List.append_cancel_left h)
    obtain ⟨rfl, hheight⟩ := Text.ofInt_append_inj (Text.endsNumber_cons rfl _)
      (Text.endsNumber_cons rfl _) (List.cons.inj hsize).2
    obtain ⟨rfl, -⟩ := Text.ofInt_append_inj (hlast _) (hlast _) (List.cons.inj hheight).2
    exact congrArg (messageBox y width height) hlines
  case checkBoxes.checkBoxes x boxes x' boxes' =>
    have hopen (t : Text) : Text.EndsNumber (" [".toList ++ t) := hspace _
    simp only [List.append_assoc, CheckBox.intercalate_describe] at h
    obtain ⟨rfl, hboxes⟩ := Text.ofInt_append_inj (hopen _) (hopen _) (List.append_cancel_left h)
    rw [CheckBox.describeAll_injective (List.append_cancel_left hboxes)]
  all_goals rfl

end Instruction

end Cutscene
