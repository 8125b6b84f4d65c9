import Cutscene.Proofs.Descriptions

/-!
A listing tells its script.

Below the description of an action, the lines of a message box and the headings of pages stand
further to the right than any number at the same level, and the actions of a page stand further to
the right still. So what belongs to an action, and to a page, ends at the first line that starts
too far to the left, and a listing is undone from the outside in.
-/

namespace Cutscene

/-! ### Actions as they are shown -/

namespace Action

mutual

/-- The action with its texts as they are shown, down to the last page. -/
def shown : Action → Action
  | single i => single i.shown
  | pages first others => pages (shownAll first) (shownPages others)

def shownAll : List Action → List Action
  | [] => []
  | a :: as => shown a :: shownAll as

def shownPages : List (List Action) → List (List Action)
  | [] => []
  | p :: ps => shownAll p :: shownPages ps

end

lemma length_shownPages (ps : List (List Action)) : (shownPages ps).length = ps.length := by
  induction ps with
  | nil => rfl
  | cons p ps ih => rw [shownPages, List.length_cons, ih, List.length_cons]

lemma describe_shown (a : Action) : a.shown.describe = a.describe := by
  cases a with
  | single i => exact i.describe_shown
  | pages first others =>
    rw [shown]
    unfold describe
    simp only [length_shownPages]

end Action

/-- The script with its texts as they are shown. -/
def Script.shown (s : Script) : Script := Action.shownAll s

/-! ### Where the lines start -/

/-- How many spaces a line starts with. -/
def Text.indentation (l : Text) : Nat := (l.takeWhile (· == ' ')).length

lemma Text.indentation_append (n : Nat) {l : Text} (h : ∀ c ∈ l.head?, (c == ' ') = false) :
    indentation (List.replicate n ' ' ++ l) = n := by
  rw [indentation, takeWhile_append (by simp) h, List.length_replicate]

namespace Script

variable {indent : Int}

/-- The spaces of a margin. -/
def width (indent : Int) : Nat := 2 * indent.toNat

/-- The margin of a page is eight spaces wider. Below zero it need not be. -/
lemma width_inner (h : 0 ≤ indent) : width (indent + 4) = width indent + 8 := by
  simp only [width]
  omega

lemma margin_append (t : Text) :
    margin indent ++ underNumber ++ t = List.replicate (width indent + 7) ' ' ++ t := by
  have hunder : underNumber = List.replicate 7 ' ' := rfl
  rw [margin, hunder, width, List.replicate_add]

/-- A number of one digit stands two spaces from the margin, and one of three digits or more stands
right at it. -/
lemma indentation_numberedLine (number : Nat) (t : Text) :
    width indent ≤ (numberedLine indent number t).indentation ∧
      (numberedLine indent number t).indentation ≤ width indent + 2 := by
  have hne : Text.ofNat number ≠ [] := Nat.toDigits_ne_nil
  obtain ⟨c, ds, hdigits⟩ := List.exists_cons_of_ne_nil hne
  have hc : (c == ' ') = false := by
    have hmem : c ∈ Text.ofNat number := hdigits ▸ List.mem_cons_self
    have hdigit := Text.isDigit_of_mem_ofNat hmem
    refine beq_eq_false_iff_ne.mpr ?_
    rintro rfl
    cases hdigit
  have hline : numberedLine indent number t =
      List.replicate (width indent + (3 - (c :: ds).length)) ' ' ++
        (c :: ds ++ ". ".toList ++ t) := by
    rw [numberedLine, margin, hdigits, List.leftpad, List.replicate_add]
    simp only [List.append_assoc, width]
  rw [hline, Text.indentation_append _ (by simpa using hc), List.length_cons]
  omega

lemma indentation_boxLine (t : Text) : (boxLine indent t).indentation = width indent + 7 := by
  rw [boxLine, List.append_assoc, margin_append]
  exact Text.indentation_append _ (by simp)

lemma indentation_pageHeading (number : Nat) :
    (pageHeading indent number).indentation = width indent + 7 := by
  rw [pageHeading, List.append_assoc, List.append_assoc, margin_append]
  exact Text.indentation_append _ (by simp)

mutual

/-- What belongs to an action stands further to the right than its number. -/
lemma indentation_of_mem_linesBelow {indent : Int} (h : 0 ≤ indent) (a : Action) {l : Text}
    (hl : l ∈ linesBelow indent a) : width indent + 7 ≤ l.indentation :=
  match a with
  | .single i => by
    obtain ⟨t, -, rfl⟩ := List.mem_map.mp hl
    exact (indentation_boxLine t).ge
  | .pages first others => by
    rcases List.mem_append.mp hl with hl | hl
    · rcases List.mem_cons.mp hl with rfl | hl
      · exact (indentation_pageHeading 1).ge
      · have := indentation_of_mem_listFrom (by omega) 1 first hl
        have := width_inner h
        omega
    · exact indentation_of_mem_listPages h 2 others hl

lemma indentation_of_mem_listFrom {indent : Int} (h : 0 ≤ indent) (number : Nat)
    (s : List Action) {l : Text} (hl : l ∈ listFrom indent number s) :
    width indent ≤ l.indentation :=
  match s with
  | [] => by cases hl
  | a :: as => by
    rcases List.mem_append.mp hl with hl | hl
    · rcases List.mem_cons.mp hl with rfl | hl
      · exact (indentation_numberedLine number _).1
      · have := indentation_of_mem_linesBelow h a hl
        omega
    · exact indentation_of_mem_listFrom h (number + 1) as hl

lemma indentation_of_mem_listPages {indent : Int} (h : 0 ≤ indent) (number : Nat)
    (ps : List (List Action)) {l : Text} (hl : l ∈ listPages indent number ps) :
    width indent + 7 ≤ l.indentation :=
  match ps with
  | [] => by cases hl
  | p :: ps => by
    rcases List.mem_append.mp hl with hl | hl
    · rcases List.mem_cons.mp hl with rfl | hl
      · exact (indentation_pageHeading number).ge
      · have := indentation_of_mem_listFrom (by omega) 1 p hl
        have := width_inner h
        omega
    · exact indentation_of_mem_listPages h (number + 1) ps hl

end

/-! ### A listing is undone -/

lemma numberedLine_inj {number : Nat} {t t' : Text}
    (h : numberedLine indent number t = numberedLine indent number t') : t = t' :=
  List.append_cancel_left h

lemma map_visible_of_boxLines {ts us : List Text}
    (h : ts.map (boxLine indent) = us.map (boxLine indent)) :
    ts.map Text.visible = us.map Text.visible := by
  have hinj := List.map_injective_iff.mpr
    (List.append_right_injective (margin indent ++ underNumber ++ "| ".toList))
  apply hinj
  rw [List.map_map, List.map_map]
  exact h

/-- What belongs to the first action ends before the number of the next one. -/
lemma listFrom_cons_inj (h : 0 ≤ indent) {number : Nat} {a b : Action} {as bs : List Action}
    (hl : listFrom indent number (a :: as) = listFrom indent number (b :: bs)) :
    a.describe = b.describe ∧ linesBelow indent a = linesBelow indent b ∧
      listFrom indent (number + 1) as = listFrom indent (number + 1) bs := by
  have hbelow (a : Action) :
      ∀ l ∈ linesBelow indent a, decide (width indent + 7 ≤ l.indentation) = true :=
    fun l hl => decide_eq_true (indentation_of_mem_linesBelow h a hl)
  have hnext (as : List Action) : ∀ l ∈ (listFrom indent (number + 1) as).head?,
      decide (width indent + 7 ≤ l.indentation) = false := by
    intro l hl
    cases as with
    | nil => cases hl
    | cons a as =>
      cases hl
      have hline : (numberedLine indent (number + 1) a.describe).indentation ≤ width indent + 2 :=
        (indentation_numberedLine _ _).2
      exact decide_eq_false (by omega)
  obtain ⟨hline, hrest⟩ := List.cons.inj hl
  exact ⟨numberedLine_inj hline,
    Text.append_inj_of_kind (hbelow a) (hbelow b) (hnext as) (hnext bs) hrest⟩

/-- The actions of a page end before the heading of the next one. -/
lemma page_append_inj (h : 0 ≤ indent) {number : Nat} {p q : List Action}
    {ps qs : List (List Action)}
    (hl : listFrom (indent + 4) 1 p ++ listPages indent number ps =
      listFrom (indent + 4) 1 q ++ listPages indent number qs) :
    listFrom (indent + 4) 1 p = listFrom (indent + 4) 1 q ∧
      listPages indent number ps = listPages indent number qs := by
  have hpage (p : List Action) : ∀ l ∈ listFrom (indent + 4) 1 p,
      decide (width indent + 8 ≤ l.indentation) = true := by
    intro l hl
    have := indentation_of_mem_listFrom (by omega) 1 p hl
    have := width_inner h
    exact decide_eq_true (by omega)
  have hnext (ps : List (List Action)) : ∀ l ∈ (listPages indent number ps).head?,
      decide (width indent + 8 ≤ l.indentation) = false := by
    intro l hl
    cases ps with
    | nil => cases hl
    | cons p ps =>
      cases hl
      have hheading : (pageHeading indent number).indentation = width indent + 7 :=
        indentation_pageHeading number
      exact decide_eq_false (by omega)
  exact Text.append_inj_of_kind (hpage p) (hpage q) (hnext ps) (hnext qs) hl

mutual

/-- **An action as it is shown** can be told from its description and what stands below it. -/
lemma shown_of_linesBelow {indent : Int} (h : 0 ≤ indent) (a b : Action)
    (hdescribe : a.describe = b.describe) (hl : linesBelow indent a = linesBelow indent b) :
    a.shown = b.shown :=
  match a, b with
  | .single i, .single j => by
    have hlines := map_visible_of_boxLines hl
    rw [Action.shown, Action.shown, Instruction.shown_of_describe hdescribe hlines]
  | .single i, .pages _ _ => absurd (Action.kind_eq_of_describe hdescribe) i.kind_ne_pages
  | .pages _ _, .single j => absurd (Action.kind_eq_of_describe hdescribe).symm j.kind_ne_pages
  | .pages first others, .pages first' others' => by
    obtain ⟨hfirst, hothers⟩ := page_append_inj h (List.cons.inj hl).2
    rw [Action.shown, Action.shown, shownAll_of_listFrom (by omega) 1 first first' hfirst,
      shownPages_of_listPages h 2 others others' hothers]

lemma shownAll_of_listFrom {indent : Int} (h : 0 ≤ indent) (number : Nat) (s t : List Action)
    (hl : listFrom indent number s = listFrom indent number t) :
    Action.shownAll s = Action.shownAll t :=
  match s, t with
  | [], [] => rfl
  | [], _ :: _ | _ :: _, [] => by cases hl
  | a :: as, b :: bs => by
    obtain ⟨hdescribe, hbelow, hrest⟩ := listFrom_cons_inj h hl
    rw [Action.shownAll, Action.shownAll, shown_of_linesBelow h a b hdescribe hbelow,
      shownAll_of_listFrom h (number + 1) as bs hrest]

lemma shownPages_of_listPages {indent : Int} (h : 0 ≤ indent) (number : Nat)
    (ps qs : List (List Action)) (hl : listPages indent number ps = listPages indent number qs) :
    Action.shownPages ps = Action.shownPages qs :=
  match ps, qs with
  | [], [] => rfl
  | [], _ :: _ | _ :: _, [] => by cases hl
  | p :: ps, q :: qs => by
    obtain ⟨hpage, hrest⟩ := page_append_inj h (List.cons.inj hl).2
    rw [Action.shownPages, Action.shownPages, shownAll_of_listFrom (by omega) 1 p q hpage,
      shownPages_of_listPages h (number + 1) ps qs hrest]

end

/-! ### Only what is shown is listed -/

lemma boxLine_visible (t : Text) : boxLine indent (Text.visible t) = boxLine indent t := by
  rw [boxLine, Text.visible_visible, boxLine]

mutual

lemma linesBelow_shown (indent : Int) (a : Action) :
    linesBelow indent a.shown = linesBelow indent a :=
  match a with
  | .single i => by
    rw [Action.shown, linesBelow, linesBelow, Instruction.boxLines_shown, List.map_map]
    exact List.map_congr_left fun t _ => boxLine_visible t
  | .pages first others => by
    rw [Action.shown, linesBelow, linesBelow, listFrom_shownAll, listPages_shownPages]

lemma listFrom_shownAll (indent : Int) (number : Nat) (s : List Action) :
    listFrom indent number (Action.shownAll s) = listFrom indent number s :=
  match s with
  | [] => rfl
  | a :: as => by
    rw [Action.shownAll, listFrom, listFrom, Action.describe_shown, linesBelow_shown,
      listFrom_shownAll]

lemma listPages_shownPages (indent : Int) (number : Nat) (ps : List (List Action)) :
    listPages indent number (Action.shownPages ps) = listPages indent number ps :=
  match ps with
  | [] => rfl
  | p :: ps => by
    rw [Action.shownPages, listPages, listPages, listFrom_shownAll, listPages_shownPages]

end

/-- The listing of a script is that of the script as it is shown. -/
lemma lines_shown (s : Script) (indent : Int) : s.shown.lines indent = s.lines indent :=
  listFrom_shownAll indent 1 s

lemma listing_eq_ok {s : Script} (hs : s.AllWritable) (indent : Int) :
    s.listing indent = .ok (s.lines indent) :=
  if_pos hs

lemma lines_of_listing {s : Script} {ls : List Text} (h : s.listing indent = .ok ls) :
    ls = s.lines indent := by
  unfold listing at h
  split at h <;> cases h
  rfl

/-- **A listing tells its script.** Scripts whose numbers are not too long have listings, at any
indentation from zero on, no matter how deep their pages are nested. Two of them have the same
listing exactly when they are the same script as far as texts are told from what is shown of them:
the same kinds of actions in the same order, with the same numbers and names, the same lines in
their boxes, and the same pages. -/
theorem listing_eq_iff_shown {s t : Script} {indent : Int} (h : 0 ≤ indent) (hs : s.AllWritable)
    (ht : t.AllWritable) :
    (∃ lines, s.listing indent = .ok lines) ∧ (∃ lines, t.listing indent = .ok lines) ∧
      (s.listing indent = t.listing indent ↔ s.shown = t.shown) := by
  refine ⟨⟨_, listing_eq_ok hs indent⟩, ⟨_, listing_eq_ok ht indent⟩, ?_⟩
  rw [listing_eq_ok hs, listing_eq_ok ht]
  constructor
  · intro heq
    exact shownAll_of_listFrom h 1 s t (Except.ok.inj heq)
  · intro heq
    rw [← lines_shown s, heq, lines_shown]

/-- A letter on a page is listed as the escape that stands for it, also when the text holds just
that escape; a step after the page is not listed as one more step on it. -/
theorem listing_eq_iff_shown_of_escape :
    Script.listing [.pages [.single (.text 1 2 "é".toList)] [], .single .fadeOut] 3 =
        Script.listing [.pages [.single (.text 1 2 "\\xE9".toList)] [], .single .fadeOut] 3 ∧
      Script.listing [.pages [.single (.text 1 2 "é".toList)] [], .single .fadeOut] 3 ≠
        Script.listing [.pages [.single (.text 1 2 "é".toList), .single .fadeOut] []] 3 := by
  constructor
  · exact (listing_eq_iff_shown (by decide) (by decide) (by decide)).2.2.mpr (by decide)
  · intro heq
    have hshown := (listing_eq_iff_shown (by decide) (by decide) (by decide)).2.2.mp heq
    exact absurd hshown (by decide)

end Script

end Cutscene
