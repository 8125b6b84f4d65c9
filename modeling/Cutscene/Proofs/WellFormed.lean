import Mathlib.Tactic.Common
import Cutscene.Catalog.Basic
import Cutscene.Reading.Script

/-!
What a catalog may hold.

The limits are those of the script format: a number is in the range of its field, a text fits on
one line, a menu is two actions side by side, and pages hold one-line instructions only. Nothing
here speaks of reading; that whatever is read keeps these limits is proved elsewhere.
-/

namespace Cutscene

/-! ### Texts -/

/-- A word can be told from the words around it. -/
structure Text.IsWord (t : Text) : Prop where
  ne_nil : t ≠ []
  not_blank : ∀ c ∈ t, isBlank c = false

/-- The text has no line break, in either of its forms. -/
structure Text.IsLine (t : Text) : Prop where
  newline : '\n' ∉ t
  ret : '\r' ∉ t

/-- A line of a message box; what stands at its end can be seen. -/
structure Text.IsBoxLine (t : Text) : Prop extends IsLine t where
  getLast : ∀ c ∈ t.getLast?, isBlank c = false

/-- A text in the regular font, which no character turns into something else. -/
structure Text.IsPlain (t : Text) : Prop extends IsLine t where
  ne_nil : t ≠ []
  head : t.head? ≠ some spriteMark
  color : ∀ c ∈ t, ¬(0xF0 ≤ c.toNat ∧ c.toNat ≤ 0xFF)

/-! ### Actions -/

namespace Instruction

/-- The instruction is written as one command. The others are constructs, or halves of a menu. -/
def IsOneLine : Instruction → Prop
  | fadeInBeforeWait | messageBox .. | rememberSelection _ => False
  | _ => True

/-- Numbers are in the range of their field, and texts are of the right kind. A sprite has three
characters for its actor and two for its frame, and one of them may be a sign. -/
def WellFormed : Instruction → Prop
  | delay n | talk n => 0 < n
  | text _ _ t => t.IsPlain
  | bigText _ _ color t => (0 ≤ color ∧ color ≤ 15) ∧ t.IsLine
  | sprite _ _ actor frame => (-99 ≤ actor ∧ actor ≤ 999) ∧ -9 ≤ frame ∧ frame ≤ 99
  | picture name | palette name => name.IsWord
  | messageBox _ _ _ lines => ∀ t ∈ lines, t.IsBoxLine
  | saveSlots n => 0 ≤ n ∧ n < saveSlotCount
  | _ => True

def FitsPage (i : Instruction) : Prop := i.IsOneLine ∧ i.WellFormed

end Instruction

/-- A page is made of one-line instructions. -/
def Script.IsPage (page : Script) : Prop :=
  ∀ a ∈ page, ∃ i : Instruction, a = .single i ∧ i.FitsPage

/-- A choice of pages has nothing but pages in it; there is at least one by its form. -/
def Action.WellFormed : Action → Prop
  | .single i => i.WellFormed
  | .pages first others => ∀ page ∈ first :: others, Script.IsPage page

/-- The two halves of each menu stand side by side, and no half stands alone. -/
structure Script.MenusPaired (s : Script) : Prop where
  followed : ∀ i slot, s[i]? = some (.single (.rememberSelection slot)) →
    s[i + 1]? = some (.single .fadeInBeforeWait)
  preceded : ∀ i, s[i]? = some (.single .fadeInBeforeWait) →
    ∃ j slot, i = j + 1 ∧ s[j]? = some (.single (.rememberSelection slot))

structure Script.WellFormed (s : Script) : Prop where
  menus : Script.MenusPaired s
  actions : ∀ a ∈ s, a.WellFormed

/-- The names are different words, and their scripts are well formed. -/
structure Catalog.WellFormed (k : Catalog) : Prop where
  distinct : k.names.Nodup
  words : ∀ name ∈ k.names, name.IsWord
  scripts : ∀ e ∈ k.entries, Script.WellFormed e.2

/-! ### Menus -/

def Action.IsMenuHalf (a : Action) : Prop :=
  a = .single .fadeInBeforeWait ∨ ∃ slot, a = .single (.rememberSelection slot)

lemma Instruction.IsOneLine.not_isMenuHalf {i : Instruction} (h : i.IsOneLine) :
    ¬ (Action.single i).IsMenuHalf := by
  rintro (heq | ⟨slot, heq⟩) <;> cases heq <;> exact h

namespace Script.MenusPaired

variable {s t : Script}

lemma nil : MenusPaired [] := ⟨by simp, by simp⟩

lemma append (hs : MenusPaired s) (ht : MenusPaired t) : MenusPaired (s ++ t) where
  followed i slot h := by
    rcases Nat.lt_or_ge i s.length with hi | hi
    · rw [List.getElem?_append_left hi] at h
      have hnext := hs.followed i slot h
      have hlt : i + 1 < s.length := (List.getElem?_eq_some_iff.mp hnext).1
      rw [List.getElem?_append_left hlt, hnext]
    · rw [List.getElem?_append_right hi] at h
      rw [List.getElem?_append_right (by omega), show i + 1 - s.length = i - s.length + 1 by omega]
      exact ht.followed _ slot h
  preceded i h := by
    rcases Nat.lt_or_ge i s.length with hi | hi
    · rw [List.getElem?_append_left hi] at h
      obtain ⟨j, slot, rfl, hj⟩ := hs.preceded i h
      exact ⟨j, slot, rfl, by rw [List.getElem?_append_left (by omega), hj]⟩
    · rw [List.getElem?_append_right hi] at h
      obtain ⟨j, slot, hij, hj⟩ := ht.preceded _ h
      refine ⟨s.length + j, slot, by omega, ?_⟩
      rw [List.getElem?_append_right (by omega), Nat.add_sub_cancel_left, hj]

lemma singleton {a : Action} (h : ¬ a.IsMenuHalf) : MenusPaired [a] where
  followed i slot hi := by
    obtain ⟨hlt, heq⟩ := List.getElem?_eq_some_iff.mp hi
    have : i = 0 := by simpa using hlt
    subst this
    exact absurd (.inr ⟨slot, heq⟩) h
  preceded i hi := by
    obtain ⟨hlt, heq⟩ := List.getElem?_eq_some_iff.mp hi
    have : i = 0 := by simpa using hlt
    subst this
    exact absurd (.inl heq) h

lemma menu (slot : Int) : MenusPaired (Body.menuActions slot) where
  followed i n h := by
    rcases i with _ | _ | i
    · rfl
    · cases h
    · cases h
  preceded i h := by
    rcases i with _ | _ | i
    · cases h
    · exact ⟨0, slot, rfl, rfl⟩
    · cases h

/-- What comes after an action that does not open a menu is paired. -/
lemma drop (hs : MenusPaired s) {n : Nat}
    (hn : ∀ slot, s[n]? ≠ some (.single (.rememberSelection slot))) :
    MenusPaired (s.drop (n + 1)) where
  followed i slot h := by
    rw [List.getElem?_drop] at h ⊢
    exact hs.followed _ slot h
  preceded i h := by
    rw [List.getElem?_drop] at h
    obtain ⟨j, slot, hij, hj⟩ := hs.preceded _ h
    rcases i with _ | i
    · -- the first half would be the action itself
      have : j = n := by omega
      exact absurd (this ▸ hj) (hn slot)
    · refine ⟨i, slot, rfl, ?_⟩
      rw [List.getElem?_drop, ← hj]
      congr 1
      omega

/-- **Induction over menus.** A script is put together of menus and of other actions. -/
theorem induction {motive : Script → Prop} (nil : motive [])
    (menu : ∀ slot t, MenusPaired t → motive t → motive (Body.menuActions slot ++ t))
    (other : ∀ a t, ¬ a.IsMenuHalf → MenusPaired t → motive t → motive (a :: t))
    (h : MenusPaired s) : motive s := by
  obtain ⟨n, hn⟩ : ∃ n, s.length = n := ⟨_, rfl⟩
  induction n using Nat.strongRecOn generalizing s with
  | _ n ih =>
  rcases s with _ | ⟨a, t⟩
  · exact nil
  rw [List.length_cons] at hn
  by_cases ha : a.IsMenuHalf
  · obtain rfl | ⟨slot, rfl⟩ := ha
    · -- nothing opens the menu
      obtain ⟨j, slot, hj, -⟩ := h.preceded 0 rfl
      cases hj
    · rcases t with _ | ⟨b, t⟩
      · cases h.followed 0 slot rfl
      · obtain rfl : b = .single .fadeInBeforeWait := Option.some.inj (h.followed 0 slot rfl)
        have ht : MenusPaired t := h.drop (n := 1) fun slot hs => by cases hs
        rw [List.length_cons] at hn
        exact menu slot t ht (ih t.length (by omega) ht rfl)
  · have ht : MenusPaired t := h.drop (n := 0) fun slot hs =>
      ha (.inr ⟨slot, Option.some.inj hs⟩)
    exact other a t ha ht (ih t.length (by omega) ht rfl)

end Script.MenusPaired

/-! ### Checking -/

instance (t : Text) : Decidable t.IsWord :=
  decidable_of_iff (t ≠ [] ∧ t.all (!Text.isBlank ·) = true)
    ⟨fun ⟨h, h'⟩ => ⟨h, by simpa using h'⟩, fun ⟨h, h'⟩ => ⟨h, by simpa using h'⟩⟩

instance (t : Text) : Decidable t.IsLine :=
  decidable_of_iff ('\n' ∉ t ∧ '\r' ∉ t) ⟨fun ⟨h, h'⟩ => ⟨h, h'⟩, fun ⟨h, h'⟩ => ⟨h, h'⟩⟩

instance (t : Text) : Decidable t.IsBoxLine :=
  decidable_of_iff (t.IsLine ∧ t.getLast?.all (!Text.isBlank ·) = true)
    ⟨fun ⟨h, h'⟩ => ⟨h, by simpa [Option.all_eq_true] using h'⟩,
      fun ⟨h, h'⟩ => ⟨h, by simpa [Option.all_eq_true] using h'⟩⟩

lemma Text.isNone_color? {c : Char} :
    (color? c).isNone = true ↔ ¬(0xF0 ≤ c.toNat ∧ c.toNat ≤ 0xFF) := by
  unfold color?
  split
  · rename_i h
    exact iff_of_false Bool.false_ne_true (not_not_intro h)
  · rename_i h
    exact iff_of_true rfl h

instance (t : Text) : Decidable t.IsPlain :=
  decidable_of_iff (t.IsLine ∧ t ≠ [] ∧ t.head? ≠ some spriteMark ∧
      t.all (fun c => (Text.color? c).isNone) = true)
    ⟨fun ⟨h, hne, hhead, hcolor⟩ => ⟨h, hne, hhead, fun c hc =>
        Text.isNone_color?.mp (List.all_eq_true.mp hcolor c hc)⟩,
      fun ⟨h, hne, hhead, hcolor⟩ => ⟨h, hne, hhead, List.all_eq_true.mpr fun c hc =>
        Text.isNone_color?.mpr (hcolor c hc)⟩⟩

instance : DecidablePred Instruction.IsOneLine
  | .fadeInBeforeWait | .messageBox .. | .rememberSelection _ => isFalse id
  | .fadeIn | .fadeOut | .delay _ | .text .. | .bigText .. | .sprite .. | .picture _ | .palette _
  | .talk _ | .stopTalking | .disableMenu | .keyBindings | .saveSlots _ | .selectionMark _
  | .checkBoxes .. | .waitForInput | .offsetText | .demoAfterTimeout => isTrue trivial

instance : DecidablePred Instruction.WellFormed
  | .delay n | .talk n => inferInstanceAs (Decidable (0 < n))
  | .text _ _ t => inferInstanceAs (Decidable t.IsPlain)
  | .bigText _ _ color t => inferInstanceAs (Decidable ((0 ≤ color ∧ color ≤ 15) ∧ t.IsLine))
  | .sprite _ _ actor frame =>
    inferInstanceAs (Decidable ((-99 ≤ actor ∧ actor ≤ 999) ∧ -9 ≤ frame ∧ frame ≤ 99))
  | .picture name | .palette name => inferInstanceAs (Decidable name.IsWord)
  | .messageBox _ _ _ lines => inferInstanceAs (Decidable (∀ t ∈ lines, t.IsBoxLine))
  | .saveSlots n => inferInstanceAs (Decidable (0 ≤ n ∧ n < saveSlotCount))
  | .fadeIn | .fadeOut | .fadeInBeforeWait | .stopTalking | .disableMenu | .keyBindings
  | .selectionMark _ | .checkBoxes .. | .rememberSelection _ | .waitForInput | .offsetText
  | .demoAfterTimeout => isTrue trivial

/-- Whether an action may stand on a page. -/
def Action.fitsPage : Action → Bool
  | .single i => i.IsOneLine ∧ i.WellFormed
  | .pages .. => false

lemma Action.fitsPage_iff {a : Action} :
    a.fitsPage = true ↔ ∃ i : Instruction, a = .single i ∧ i.FitsPage := by
  cases a with
  | single i => simp [fitsPage, Instruction.FitsPage]
  | pages => simp [fitsPage]

instance (page : Script) : Decidable (Script.IsPage page) :=
  decidable_of_iff (∀ a ∈ page, a.fitsPage = true) (by simp only [Action.fitsPage_iff]; rfl)

instance : DecidablePred Action.WellFormed
  | .single i => inferInstanceAs (Decidable i.WellFormed)
  | .pages first others =>
    inferInstanceAs (Decidable (∀ page ∈ first :: others, Script.IsPage page))

/-- Whether menus are paired, from left to right. -/
def Script.menusPaired : Script → Bool
  | [] => true
  | .single (.rememberSelection _) :: .single .fadeInBeforeWait :: t => menusPaired t
  | .single (.rememberSelection _) :: _ | .single .fadeInBeforeWait :: _ => false
  | _ :: t => menusPaired t

lemma Script.menusPaired_iff {s : Script} : s.menusPaired = true ↔ MenusPaired s := by
  constructor
  · intro h
    induction s using menusPaired.induct with
    | case1 => exact .nil
    | case2 slot t ih => exact (MenusPaired.menu slot).append (ih h)
    | case3 slot t hnext => simp [menusPaired] at h
    | case4 t => cases h
    | case5 a t hmenu hfirst hsecond ih =>
      have ha : ¬ a.IsMenuHalf := by
        rintro (rfl | ⟨slot, rfl⟩)
        · exact hsecond rfl
        · exact hfirst slot rfl
      exact (MenusPaired.singleton ha).append (ih (by simpa [menusPaired] using h))
  · intro h
    refine h.induction (motive := fun s => s.menusPaired = true) rfl (fun slot t _ ih => ih) ?_
    intro a t ha _ ih
    cases a with
    | pages => exact ih
    | single i =>
      cases i with
      | rememberSelection slot => exact absurd (.inr ⟨slot, rfl⟩) ha
      | fadeInBeforeWait => exact absurd (.inl rfl) ha
      | _ => exact ih

instance (s : Script) : Decidable (Script.MenusPaired s) :=
  decidable_of_iff _ Script.menusPaired_iff

instance (s : Script) : Decidable (Script.WellFormed s) :=
  decidable_of_iff (Script.MenusPaired s ∧ ∀ a ∈ s, a.WellFormed)
    ⟨fun ⟨h, h'⟩ => ⟨h, h'⟩, fun ⟨h, h'⟩ => ⟨h, h'⟩⟩

instance (k : Catalog) : Decidable k.WellFormed :=
  decidable_of_iff (k.names.Nodup ∧ (∀ name ∈ k.names, name.IsWord) ∧
      ∀ e ∈ k.entries, Script.WellFormed e.2)
    ⟨fun ⟨hd, hw, hs⟩ => ⟨hd, hw, hs⟩, fun ⟨hd, hw, hs⟩ => ⟨hd, hw, hs⟩⟩

end Cutscene
