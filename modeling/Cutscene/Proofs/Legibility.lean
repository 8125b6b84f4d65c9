import Cutscene.Proofs.Listings
import Cutscene.Proofs.Sprites

/-!
Which characters a listing is made of.

What a listing says by itself is plain ASCII, and so are numbers and texts with escapes. The name of
a picture or of a palette is listed as it stands, and its line ends with it. So there is one way for
any other character into a listing: as part of such a name, which is a word of the source.
-/

namespace Cutscene

/-! ### Legible texts -/

namespace Text

/-- There are only characters from the blank to the tilde. -/
def Legible (t : Text) : Prop := ∀ c ∈ t, 32 ≤ c.toNat ∧ c.toNat < 127

instance (t : Text) : Decidable t.Legible := List.decidableBAll _ t

/-- The line ends with the name as it stands, and what comes before is legible. -/
def EndsWith (l name : Text) : Prop := ∃ before : Text, before.Legible ∧ l = before ++ name

variable {t u name : Text} {c : Char}

@[simp] lemma legible_append_iff : (t ++ u).Legible ↔ t.Legible ∧ u.Legible :=
  List.forall_mem_append

@[simp] lemma legible_cons_iff : Legible (c :: t) ↔ (32 ≤ c.toNat ∧ c.toNat < 127) ∧ t.Legible :=
  List.forall_mem_cons

@[simp] lemma legible_visible (t : Text) : (visible t).Legible := fun _ => plain_of_mem_visible

lemma legible_of_isDigit (h : ∀ c ∈ t, c.isDigit = true) : t.Legible := by
  intro c hc
  have hdigit := Char.isDigit_iff_toNat.mp (h c hc)
  simp only [Char.reduceToNat] at hdigit
  omega

@[simp] lemma legible_ofNat (n : Nat) : (ofNat n).Legible :=
  legible_of_isDigit fun _ => isDigit_of_mem_ofNat

@[simp] lemma legible_ofInt (n : Int) : (ofInt n).Legible := by
  cases n with
  | ofNat n => exact legible_ofNat n
  | negSucc n => exact legible_cons_iff.mpr ⟨by decide, legible_ofNat (n + 1)⟩

lemma legible_replicate (n : Nat) : Legible (List.replicate n ' ') := by
  intro c hc
  rw [List.eq_of_mem_replicate hc]
  decide

/-- A name that spoils a line spoils it by itself. -/
lemma EndsWith.legible_iff {l : Text} (h : l.EndsWith name) : l.Legible ↔ name.Legible := by
  obtain ⟨before, hbefore, rfl⟩ := h
  rw [legible_append_iff]
  exact and_iff_right hbefore

lemma EndsWith.prepend {l : Text} (h : l.EndsWith name) (ht : t.Legible) :
    (t ++ l).EndsWith name := by
  obtain ⟨before, hbefore, rfl⟩ := h
  exact ⟨t ++ before, legible_append_iff.mpr ⟨ht, hbefore⟩, (List.append_assoc ..).symm⟩

end Text

/-! ### Descriptions -/

/-- The name of the picture or of the palette that the instruction sets. -/
def Instruction.name? : Instruction → Option Text
  | picture name | palette name => some name
  | _ => none

lemma legible_describePoint (x y : Int) : (describePoint x y).Legible := by
  simp only [describePoint, Text.legible_append_iff, Text.legible_cons_iff, Text.legible_ofInt]
  decide

lemma legible_describeText (t : Text) : (describeText t).Legible := by
  simp only [describeText, Text.legible_append_iff, Text.legible_cons_iff, Text.legible_visible]
  decide

namespace CheckBox

lemma legible_describe (b : CheckBox) : b.describe.Legible := by
  simp only [describe, Text.legible_append_iff, Text.legible_cons_iff, Text.legible_ofInt]
  decide

lemma legible_describeOthers (boxes : List CheckBox) : (describeOthers boxes).Legible := by
  induction boxes with
  | nil => decide
  | cons b bs ih =>
    simp only [describeOthers_cons, Text.legible_append_iff, legible_describe, ih]
    decide

lemma legible_describeAll (boxes : List CheckBox) : (describeAll boxes).Legible := by
  cases boxes with
  | nil => decide
  | cons b bs => exact Text.legible_append_iff.mpr ⟨legible_describe b, legible_describeOthers bs⟩

end CheckBox

namespace Instruction

variable {i : Instruction} {name : Text}

/-- **Without a name** a description is legible, whatever the texts in it are. -/
lemma legible_describe_of_unnamed (h : i.name? = none) : i.describe.Legible := by
  cases i with
  | picture name | palette name => cases h
  | checkBoxes x boxes =>
    unfold describe
    simp only [List.append_assoc, CheckBox.intercalate_describe,
      Text.legible_append_iff, Text.legible_ofInt, CheckBox.legible_describeAll]
    decide
  | _ =>
    unfold describe
    simp only [Text.legible_append_iff, Text.legible_cons_iff, Text.legible_ofInt,
      Text.legible_ofNat, legible_describePoint, legible_describeText]
    decide

/-- **With a name** it ends with that name. -/
lemma describe_endsWith (h : i.name? = some name) : i.describe.EndsWith name := by
  cases i with
  | picture name =>
    cases h
    exact ⟨"ShowFullScreenImage ".toList, by decide, rfl⟩
  | palette name =>
    cases h
    exact ⟨"SetPalette ".toList, by decide, rfl⟩
  | _ => cases h

end Instruction

/-! ### Lines of a listing -/

/-- The name that the action sets; pages have none of their own. -/
def Action.name? : Action → Option Text
  | single i => i.name?
  | pages _ _ => none

lemma Action.exists_single_of_name? {a : Action} {name : Text} (h : a.name? = some name) :
    ∃ i : Instruction, a = .single i ∧ i.name? = some name := by
  cases a with
  | single i => exact ⟨i, rfl, h⟩
  | pages first others => cases h

namespace Script

/-- A picture or a palette of the script has the name, perhaps on a page. -/
def Names (s : Script) (name : Text) : Prop := ∃ a ∈ s.parts, a.name? = some name

variable {indent : Int} {number : Nat} {a b : Action} {l name : Text}

lemma legible_margin : (margin indent).Legible := Text.legible_replicate _

lemma legible_pageHeading : (pageHeading indent number).Legible := by
  simp only [pageHeading, Text.legible_append_iff, Text.legible_ofNat, legible_margin]
  decide

lemma legible_boxLine (t : Text) : (boxLine indent t).Legible := by
  simp only [boxLine, Text.legible_append_iff, Text.legible_visible, legible_margin]
  decide

/-- What stands before a description. -/
lemma legible_number :
    (margin indent ++ (Text.ofNat number).leftpad 3 ' ' ++ ". ".toList).Legible := by
  simp only [List.leftpad, Text.legible_append_iff, Text.legible_ofNat, Text.legible_replicate,
    legible_margin]
  decide

lemma legible_numberedLine (h : a.name? = none) :
    (numberedLine indent number a.describe).Legible := by
  refine Text.legible_append_iff.mpr ⟨legible_number, ?_⟩
  cases a with
  | single i => exact Instruction.legible_describe_of_unnamed h
  | pages first others =>
    unfold Action.describe
    simp only [Text.legible_append_iff, Text.legible_ofNat]
    decide

lemma numberedLine_endsWith (h : a.name? = some name) :
    (numberedLine indent number a.describe).EndsWith name := by
  obtain ⟨i, rfl, hi⟩ := Action.exists_single_of_name? h
  exact (Instruction.describe_endsWith hi).prepend legible_number

/-! ### Names spoil a line -/

lemma exists_name_of_numberedLine (h : ¬ (numberedLine indent number a.describe).Legible) :
    ∃ name, a.name? = some name ∧ (numberedLine indent number a.describe).EndsWith name := by
  rcases hname : a.name? with _ | name
  · exact absurd (legible_numberedLine hname) h
  · exact ⟨name, rfl, numberedLine_endsWith hname⟩

lemma self_mem_parts (a : Action) : a ∈ a.parts := by
  cases a <;> exact List.mem_cons_self

mutual

/-- **A line that is not legible** ends with the name of an action. -/
lemma exists_name_of_mem_linesBelow (indent : Int) (a : Action) {l : Text}
    (hl : l ∈ linesBelow indent a) (hbad : ¬ l.Legible) :
    ∃ b ∈ a.parts, ∃ name, b.name? = some name ∧ l.EndsWith name :=
  match a with
  | .single i => by
    obtain ⟨t, -, rfl⟩ := List.mem_map.mp hl
    exact absurd (legible_boxLine t) hbad
  | .pages first others => by
    rcases List.mem_append.mp hl with hl | hl
    · rcases List.mem_cons.mp hl with rfl | hl
      · exact absurd legible_pageHeading hbad
      · obtain ⟨b, hb, hname⟩ := exists_name_of_mem_listFrom _ 1 first hl hbad
        exact ⟨b, List.mem_append_left _ (List.mem_cons_of_mem _ hb), hname⟩
    · obtain ⟨b, hb, hname⟩ := exists_name_of_mem_listPages indent 2 others hl hbad
      exact ⟨b, List.mem_append_right _ hb, hname⟩

lemma exists_name_of_mem_listFrom (indent : Int) (number : Nat) (s : List Action) {l : Text}
    (hl : l ∈ listFrom indent number s) (hbad : ¬ l.Legible) :
    ∃ b ∈ Action.partsOfScript s, ∃ name, b.name? = some name ∧ l.EndsWith name :=
  match s with
  | [] => by cases hl
  | a :: as => by
    rcases List.mem_append.mp hl with hl | hl
    · rcases List.mem_cons.mp hl with rfl | hl
      · exact ⟨a, List.mem_append_left _ (self_mem_parts a), exists_name_of_numberedLine hbad⟩
      · obtain ⟨b, hb, hname⟩ := exists_name_of_mem_linesBelow indent a hl hbad
        exact ⟨b, List.mem_append_left _ hb, hname⟩
    · obtain ⟨b, hb, hname⟩ := exists_name_of_mem_listFrom indent (number + 1) as hl hbad
      exact ⟨b, List.mem_append_right _ hb, hname⟩

lemma exists_name_of_mem_listPages (indent : Int) (number : Nat) (ps : List (List Action))
    {l : Text} (hl : l ∈ listPages indent number ps) (hbad : ¬ l.Legible) :
    ∃ b ∈ Action.partsOfPages ps, ∃ name, b.name? = some name ∧ l.EndsWith name :=
  match ps with
  | [] => by cases hl
  | p :: ps => by
    rcases List.mem_append.mp hl with hl | hl
    · rcases List.mem_cons.mp hl with rfl | hl
      · exact absurd legible_pageHeading hbad
      · obtain ⟨b, hb, hname⟩ := exists_name_of_mem_listFrom _ 1 p hl hbad
        exact ⟨b, List.mem_append_left _ hb, hname⟩
    · obtain ⟨b, hb, hname⟩ := exists_name_of_mem_listPages indent (number + 1) ps hl hbad
      exact ⟨b, List.mem_append_right _ hb, hname⟩

end

/-! ### Names are listed as they stand -/

mutual

/-- **A name on a page** is listed below the pages. -/
lemma exists_mem_linesBelow (indent : Int) (a : Action) {b : Action} {name : Text}
    (hb : b ∈ a.parts) (hne : b ≠ a) (hname : b.name? = some name) :
    ∃ l ∈ linesBelow indent a, l.EndsWith name :=
  match a with
  | .single i => absurd (List.mem_singleton.mp hb) hne
  | .pages first others => by
    rcases List.mem_append.mp hb with hb | hb
    · obtain ⟨l, hl, hends⟩ := exists_mem_listFrom (indent + 4) 1 first
        ((List.mem_cons.mp hb).resolve_left hne) hname
      exact ⟨l, List.mem_append_left _ (List.mem_cons_of_mem _ hl), hends⟩
    · obtain ⟨l, hl, hends⟩ := exists_mem_listPages indent 2 others hb hname
      exact ⟨l, List.mem_append_right _ hl, hends⟩

lemma exists_mem_listFrom (indent : Int) (number : Nat) (s : List Action) {b : Action}
    {name : Text} (hb : b ∈ Action.partsOfScript s) (hname : b.name? = some name) :
    ∃ l ∈ listFrom indent number s, l.EndsWith name :=
  match s with
  | [] => by cases hb
  | a :: as => by
    rcases List.mem_append.mp hb with hb | hb
    · by_cases hself : b = a
      · subst hself
        exact ⟨_, List.mem_append_left _ List.mem_cons_self, numberedLine_endsWith hname⟩
      · obtain ⟨l, hl, hends⟩ := exists_mem_linesBelow indent a hb hself hname
        exact ⟨l, List.mem_append_left _ (List.mem_cons_of_mem _ hl), hends⟩
    · obtain ⟨l, hl, hends⟩ := exists_mem_listFrom indent (number + 1) as hb hname
      exact ⟨l, List.mem_append_right _ hl, hends⟩

lemma exists_mem_listPages (indent : Int) (number : Nat) (ps : List (List Action)) {b : Action}
    {name : Text} (hb : b ∈ Action.partsOfPages ps) (hname : b.name? = some name) :
    ∃ l ∈ listPages indent number ps, l.EndsWith name :=
  match ps with
  | [] => by cases hb
  | p :: ps => by
    rcases List.mem_append.mp hb with hb | hb
    · obtain ⟨l, hl, hends⟩ := exists_mem_listFrom (indent + 4) 1 p hb hname
      exact ⟨l, List.mem_append_left _ (List.mem_cons_of_mem _ hl), hends⟩
    · obtain ⟨l, hl, hends⟩ := exists_mem_listPages indent (number + 1) ps hb hname
      exact ⟨l, List.mem_append_right _ hl, hends⟩

end

/-- **Only names** can make a listing illegible, and each that does stands at the end of a line. -/
lemma legible_lines_iff {s : Script} :
    (∀ l ∈ s.lines indent, l.Legible) ↔ ∀ name, s.Names name → name.Legible := by
  constructor
  · rintro h name ⟨a, ha, hname⟩
    obtain ⟨l, hl, hends⟩ := exists_mem_listFrom indent 1 s ha hname
    exact hends.legible_iff.mp (h l hl)
  · intro h l hl
    by_contra hbad
    obtain ⟨a, ha, name, hname, hends⟩ := exists_name_of_mem_listFrom indent 1 s hl hbad
    exact hbad (hends.legible_iff.mpr (h name ⟨a, ha, hname⟩))

end Script

/-! ### Where names come from -/

/-- The name of the instruction, if it has one, is a word of the text. -/
def Instruction.NamedFrom (s : Text) (i : Instruction) : Prop :=
  ∀ name, i.name? = some name → name <:+: s ∧ name.IsWord

lemma Instruction.namedFrom_of_unnamed {s : Text} {i : Instruction} (h : i.name? = none) :
    i.NamedFrom s := by
  intro name hname
  cases h.symm.trans hname

lemma Command.name?_drawing {c : Command} {x y : Int} {t : Text} {i : Instruction}
    (h : c.drawing x y t = .ok i) : i.name? = none := by
  cases shows_iff.mpr h <;> rfl

/-- **A command** takes the name from its arguments. -/
lemma Command.namedFrom_of_instruction? {c : Command} {s : Text} {i : Instruction}
    (hc : c.SaidIn s) (h : c.instruction? = .ok (some i)) : i.NamedFrom s := by
  obtain ⟨o, -, hmakes⟩ := makes_of_instruction? hc.arguments_isInfix h
  cases hmakes with
  | picture part word | palette part word =>
    rintro _ ⟨⟩
    exact ⟨part, word⟩
  | text _ _ _ drawn => exact Instruction.namedFrom_of_unnamed (name?_drawing drawn)
  | _ => exact Instruction.namedFrom_of_unnamed rfl

namespace Catalog

variable {s : Text} {k : Catalog}

lemma namedFrom_of_load (h : load s = .ok k) :
    ∀ e ∈ k.entries, Script.Each (Instruction.NamedFrom s) e.2 :=
  each_of_load h (fun _ _ => Instruction.namedFrom_of_unnamed rfl)
    (fun _ => Body.each_menuActions (Instruction.namedFrom_of_unnamed rfl)
      (Instruction.namedFrom_of_unnamed rfl))
    fun _ _ => Command.namedFrom_of_instruction?

lemma word_of_names (h : load s = .ok k) {e : Text × Script} (he : e ∈ k.entries) {name : Text}
    (hname : e.2.Names name) : name <:+: s ∧ name.IsWord := by
  obtain ⟨a, ha, hname⟩ := hname
  obtain ⟨i, rfl, hi⟩ := Action.exists_single_of_name? hname
  exact namedFrom_of_load h e he i ha name hi

/-- **Listings of what is loaded.** There is a listing if the numerals of the source are short, and
it is plain ASCII but for names: a line that holds any other character ends with the name of a
picture or of a palette, on pages as well, and is plain ASCII before that name. Such a name is a
word of the source, and the listing has a line that ends with it as it stands, with no escapes. So a
listing is plain ASCII exactly when these names are; it always is when the source has nothing but
plain ASCII and blanks. -/
theorem listings_of_load (h : load s = .ok k) :
    ∀ e ∈ k.entries, ∀ indent : Int,
      (s.Modest → ∃ lines, e.2.listing indent = .ok lines) ∧
      ∀ lines, e.2.listing indent = .ok lines →
        (∀ l ∈ lines, ¬ l.Legible → ∃ name, e.2.Names name ∧ ¬ name.Legible ∧ l.EndsWith name) ∧
        (∀ name, e.2.Names name → (name <:+: s ∧ name.IsWord) ∧ ∃ l ∈ lines, l.EndsWith name) ∧
        ((∀ l ∈ lines, l.Legible) ↔ ∀ name, e.2.Names name → name.Legible) ∧
        (Text.Legible (s.filter (!Text.isBlank ·)) → ∀ l ∈ lines, l.Legible) := by
  intro e he indent
  constructor
  · intro hmodest
    have hwritable : e.2.AllWritable := fun n hn => (reaches_of_load h e he n hn).writable hmodest
    exact ⟨_, Script.listing_eq_ok hwritable indent⟩
  · intro lines hlines
    obtain rfl := Script.lines_of_listing hlines
    refine ⟨?_, ?_, Script.legible_lines_iff, ?_⟩
    · intro l hl hbad
      obtain ⟨a, ha, name, hname, hends⟩ := Script.exists_name_of_mem_listFrom indent 1 e.2 hl hbad
      exact ⟨name, ⟨a, ha, hname⟩, fun hok => hbad (hends.legible_iff.mpr hok), hends⟩
    · rintro name ⟨a, ha, hname⟩
      exact ⟨word_of_names h he ⟨a, ha, hname⟩, Script.exists_mem_listFrom indent 1 e.2 ha hname⟩
    · intro hplain
      refine Script.legible_lines_iff.mpr fun name hname c hc => ?_
      obtain ⟨hpart, hword⟩ := word_of_names h he hname
      exact hplain c (List.mem_filter.mpr ⟨hpart.subset hc, by simp [hword.not_blank c hc]⟩)

/-- A letter in the name of a picture on a page and in a text; and a listing without such a name. -/
theorem listings_of_load_on_page :
    (Script.listing [.pages [.single (.picture "é".toList)] [], .single (.text 1 2 "é".toList)] 0 =
        .ok ["  1. Pages (1 pages)".toList, "       Page 1:".toList,
          "          1. ShowFullScreenImage é".toList, "  2. DrawText (1, 2) '\\xE9'".toList] ∧
      ¬ ∀ l ∈ ["  1. Pages (1 pages)".toList, "       Page 1:".toList,
          "          1. ShowFullScreenImage é".toList, "  2. DrawText (1, 2) '\\xE9'".toList],
        Text.Legible l) ∧
    ∃ lines, Script.listing [.single (.palette "A.PAL".toList)] 4 = .ok lines ∧
      ∀ l ∈ lines, l.Legible := by
  have hload : load "A\n//PAGESSTART\n//LOADRAW é\n//PAGESEND\n//XYTEXT 1 2 é\n//END".toList =
      .ok ⟨[("A".toList,
        [.pages [.single (.picture "é".toList)] [], .single (.text 1 2 "é".toList)])]⟩ := by
    decide +kernel
  have hplain : load "A\n\t//GETPAL\tA.PAL\n//END".toList =
      .ok ⟨[("A".toList, [.single (.palette "A.PAL".toList)])]⟩ := by decide +kernel
  constructor
  · have hlisting : Script.listing
        [.pages [.single (.picture "é".toList)] [], .single (.text 1 2 "é".toList)] 0 =
        .ok ["  1. Pages (1 pages)".toList, "       Page 1:".toList,
          "          1. ShowFullScreenImage é".toList,
          "  2. DrawText (1, 2) '\\xE9'".toList] := by
      decide +kernel
    obtain ⟨-, -, hiff, -⟩ := (listings_of_load hload _ List.mem_cons_self 0).2 _ hlisting
    refine ⟨hlisting, fun hall => ?_⟩
    have hname := hiff.mp hall "é".toList ⟨.single (.picture "é".toList), by decide, rfl⟩
    exact absurd hname (by decide)
  · obtain ⟨hexists, hlines⟩ := listings_of_load hplain _ List.mem_cons_self 4
    obtain ⟨lines, hlisting⟩ := hexists (Text.modest_of_length (by decide))
    exact ⟨lines, hlisting, (hlines lines hlisting).2.2.2 (by decide +kernel)⟩

/-- The name of a picture is listed without escapes, whatever it holds. -/
theorem not_legible_listings_of_load :
    load "A\n//LOADRAW é\n//END".toList =
      .ok ⟨[("A".toList, [.single (.picture "é".toList)])]⟩ ∧
    Script.listing [.single (.picture "é".toList)] 0 =
      .ok ["  1. ShowFullScreenImage é".toList] ∧
    ¬ ∀ s k, load s = .ok k → ∀ e ∈ k.entries, ∀ lines, Script.listing e.2 0 = .ok lines →
      ∀ l ∈ lines, Text.Legible l := by
  have hload : load "A\n//LOADRAW é\n//END".toList =
      .ok ⟨[("A".toList, [.single (.picture "é".toList)])]⟩ := by decide +kernel
  have hlisting : Script.listing [.single (.picture "é".toList)] 0 =
      .ok ["  1. ShowFullScreenImage é".toList] := by decide +kernel
  refine ⟨hload, hlisting, fun h => ?_⟩
  have hline := h _ _ hload _ List.mem_cons_self _ hlisting _ List.mem_cons_self
  exact absurd hline (by decide)

end Catalog

end Cutscene
