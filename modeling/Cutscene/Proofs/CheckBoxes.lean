import Cutscene.Proofs.Location
import Cutscene.Proofs.Tiling

/-!
Check boxes, as many as a command asks for.

The number of the boxes stands in the arguments, and so do the two numbers of each box, as far as
there are any. Reading goes on when nothing is left and gives zeros then. The first field that is no
integer stops it for good: what comes after that field is never looked at.
-/

namespace Cutscene

/-! ### Integers that are read one after another -/

/-- Whether a number ends before a text, its first character decides. -/
lemma Text.EndsNumber.append {s t u : Text} (h : (s ++ t).EndsNumber) (hu : u.EndsNumber) :
    (s ++ u).EndsNumber := by
  cases s with
  | nil => exact hu
  | cons c s => exact h

namespace Numeral

variable {n : Numeral} {t u blanks rest read : Text}

/-- Where no numeral starts, no digit does. -/
lemma Absent.endsNumber (h : Absent t) : t.EndsNumber := by
  rintro c hc
  obtain ⟨t, rfl⟩ := List.head?_eq_some_iff.mp hc
  by_contra hdigit
  rw [Bool.not_eq_false] at hdigit
  have hleads : Leads ⟨false, (c :: t).takeWhile Char.isDigit⟩ ((c :: t).dropWhile Char.isDigit)
      ([] ++ ([] ++ ((c :: t).takeWhile Char.isDigit ++ (c :: t).dropWhile Char.isDigit))) :=
    .intro (by simp) .none (by simp [hdigit]) (fun d hd => List.mem_takeWhile_imp hd)
      Text.head?_dropWhile
  rw [List.takeWhile_append_dropWhile] at hleads
  exact h _ _ hleads

lemma Absent.blanks_append (h : Absent t) (hb : ∀ c ∈ blanks, Text.isBlank c = true) :
    Absent (blanks ++ t) := by
  rw [← scan?_dropBlanks_eq_none_iff] at h ⊢
  have hdrop : Text.dropBlanks (blanks ++ t) = Text.dropBlanks t := by
    rw [Text.dropBlanks, List.dropWhile_append_of_pos hb]
    rfl
  rwa [hdrop]

lemma Absent.dropBlanks (h : Absent t) : Absent (Text.dropBlanks t) := by
  rw [← scan?_dropBlanks_eq_none_iff] at h ⊢
  rwa [Text.dropBlanks, Text.dropBlanks, List.dropWhile_idempotent]

lemma Leads.endsNumber (h : n.Leads rest t) : rest.EndsNumber := by
  cases h with
  | intro _ _ _ _ ends => exact ends

/-- Any other rest may follow a numeral, if the numeral ends there. -/
lemma Leads.exists_replace (h : n.Leads rest t) :
    ∃ piece, t = piece ++ rest ∧ ∀ u : Text, u.EndsNumber → n.Leads u (piece ++ u) := by
  cases h with
  | @intro blanks sign blank signed ne_nil digits ends =>
    refine ⟨blanks ++ (sign ++ n.digits), by simp only [List.append_assoc], fun u hu => ?_⟩
    simp only [List.append_assoc]
    exact .intro blank signed ne_nil digits hu

lemma Sign.not_isBlank {negative : Bool} {sign : Text} (h : Sign negative sign) :
    ∀ c ∈ sign, Text.isBlank c = false := by
  cases h with
  | minus | plus => exact List.forall_mem_singleton.mpr rfl
  | none => simp

/-- What comes after the word that a numeral stands in may be replaced. -/
lemma Leads.of_word {sign : Text} (signed : Sign n.negative sign) (ne_nil : n.digits ≠ [])
    (digits : ∀ c ∈ n.digits, c.isDigit = true) (ends : rest.EndsNumber)
    (ht : Text.word t = sign ++ (n.digits ++ Text.word rest)) :
    n.Leads (Text.word rest ++ Text.afterWord t) t := by
  have hafter : Text.EndsNumber (Text.afterWord t) := by
    intro c hc
    by_contra hdigit
    have hblank := Text.isBlank_head?_afterWord t c hc
    rw [Text.not_isBlank_of_isDigit (Bool.of_not_eq_false hdigit)] at hblank
    cases hblank
  have hends : Text.EndsNumber (Text.word rest ++ Text.afterWord t) := by
    rw [← Text.word_append_afterWord rest] at ends
    exact ends.append hafter
  have hleads : n.Leads (Text.word rest ++ Text.afterWord t)
      ([] ++ (sign ++ (n.digits ++ (Text.word rest ++ Text.afterWord t)))) :=
    .intro (by simp) signed ne_nil digits hends
  rwa [List.nil_append, ← List.append_assoc n.digits, ← List.append_assoc sign, ← ht,
    Text.word_append_afterWord] at hleads

/-- **A field that is no numeral** is none whatever comes after it. -/
lemma Absent.word_append (h : Absent t) (hne : Text.word t ≠ [])
    (hu : ∀ c ∈ u.head?, Text.isBlank c = true) : Absent (Text.word t ++ u) := by
  intro n rest hleads
  have hvisible : ∀ c ∈ Text.word t, Text.isBlank c = false :=
    fun c hc => Text.not_isBlank_of_mem_word hc
  have hword : Text.word (Text.word t ++ u) = Text.word t := Text.word_append hvisible hu
  have hhead : ∀ c ∈ (Text.word t ++ u).head?, Text.isBlank c = false := by
    obtain ⟨c, w, hw⟩ := List.exists_cons_of_ne_nil hne
    rw [hw]
    rintro _ ⟨⟩
    exact hvisible c (hw ▸ List.mem_cons_self)
  generalize Text.word t ++ u = field at hleads hword hhead
  cases hleads with
  | @intro blanks sign blank signed ne_nil digits ends =>
    have hblanks : blanks = [] := by
      cases blanks with
      | nil => rfl
      | cons b bs => exact absurd (blank b List.mem_cons_self) (by rw [hhead b rfl]; simp)
    subst hblanks
    have hdigits : ∀ c ∈ n.digits, Text.isBlank c = false :=
      fun c hc => Text.not_isBlank_of_isDigit (digits c hc)
    refine h n _ (.of_word signed ne_nil digits ends ?_)
    rw [← hword, List.nil_append, Text.word,
      List.takeWhile_append_of_pos (fun c hc => by simp [signed.not_isBlank c hc]),
      List.takeWhile_append_of_pos (fun c hc => by simp [hdigits c hc])]
    rfl

end Numeral

namespace Arguments

/-- Reading integers one after another gives these, and then fails; so do all later reads. -/
inductive Gives : Arguments → List Int → Arguments → Prop
  | stuck {a b : Arguments} (read : a.int = (.ok 0, b)) (failed : b.failed = true) : Gives a [] b
  | next {a b d : Arguments} {n : Int} {v : List Int} (read : a.int = (.ok n, b))
      (goes : b.failed = false) (more : Gives b v d) : Gives a (n :: v) d

variable {a d : Arguments} {v : List Int}

/-- **One read** takes the first integer, or gives zero if there is none. -/
lemma Gives.int (h : a.Gives v d) : ∃ b, a.int = (.ok (v.getD 0 0), b) ∧ b.Gives v.tail d := by
  cases h with
  | stuck read failed => exact ⟨d, read, .stuck (int_of_failed failed) failed⟩
  | next read _ more => exact ⟨_, read, more⟩

/-- Where no run of digits is too long, integers are read until there are no more. -/
lemma exists_gives {t : Text} (h : t.DigitsFit) : ∃ v d, (ofText t).Gives v d := by
  induction hlength : t.length using Nat.strongRecOn generalizing t with
  | ind k ih =>
    obtain ⟨n, rest, hleads, hint⟩ | ⟨-, hint⟩ := int_ofText_cases t
    · obtain ⟨piece, rfl, hdigits⟩ := hleads.exists_piece
      have hpiece : piece <:+: piece ++ rest := (List.prefix_append _ _).isInfix
      have hrest : rest <:+: piece ++ rest := (List.suffix_append _ _).isInfix
      have hshort : n.digits.length ≤ digitLimit :=
        h n.digits (hdigits.trans hpiece) hleads.isDigit
      obtain ⟨v, d, hgives⟩ := ih rest.length (hlength ▸ hleads.length_lt) (h.of_isInfix hrest) rfl
      rw [Numeral.read_of_length hshort] at hint
      exact ⟨n.value :: v, d, .next hint rfl hgives⟩
    · exact ⟨[], _, .stuck hint rfl⟩

/-- **What is read** does not depend on what comes after it, as long as that is no integer. -/
lemma Gives.exists_replace {t : Text} (h : (ofText t).Gives v d) :
    ∃ read, t = read ++ d.rest ∧ Numeral.Absent d.rest ∧
      (∀ c ∈ d.rest.head?, Text.isBlank c = false) ∧
      ∀ u, Numeral.Absent u → ∃ e, (ofText (read ++ u)).Gives v e := by
  generalize ha : ofText t = a at h
  induction h generalizing t with
  | @stuck a b hread failed =>
    subst ha
    obtain ⟨n, rest, -, hint⟩ | ⟨habsent, hint⟩ := int_ofText_cases t
    · obtain ⟨-, rfl⟩ := Prod.mk.inj (hint.symm.trans hread)
      cases failed
    · obtain ⟨-, rfl⟩ := Prod.mk.inj (hint.symm.trans hread)
      have hblanks : ∀ c ∈ t.takeWhile Text.isBlank, Text.isBlank c = true :=
        fun c hc => List.mem_takeWhile_imp hc
      refine ⟨t.takeWhile Text.isBlank, (Text.takeWhile_isBlank_append_dropBlanks t).symm,
        habsent.dropBlanks, Text.head?_dropWhile, fun u hu => ?_⟩
      exact ⟨_, .stuck (int_ofText_of_absent (hu.blanks_append hblanks)) rfl⟩
  | @next a b d n v hread goes more ih =>
    subst ha
    obtain ⟨m, rest, hleads, hint⟩ | ⟨-, hint⟩ := int_ofText_cases t
    · obtain ⟨hvalue, rfl⟩ := Prod.mk.inj (hint.symm.trans hread)
      obtain ⟨read, rfl, habsent, hhead, hmore⟩ := ih rfl
      obtain ⟨piece, rfl, hreplace⟩ := hleads.exists_replace
      refine ⟨piece ++ read, by rw [List.append_assoc], habsent, hhead, fun u hu => ?_⟩
      obtain ⟨e, he⟩ := hmore u hu
      have hends : Text.EndsNumber (read ++ u) := hleads.endsNumber.append hu.endsNumber
      rw [List.append_assoc]
      exact ⟨e, .next ((int_ofText_of_leads (hreplace _ hends)).trans (by rw [hvalue])) rfl he⟩
    · obtain ⟨-, rfl⟩ := Prod.mk.inj (hint.symm.trans hread)
      cases goes

end Arguments

/-! ### Check boxes -/

namespace Take

variable {a d : Arguments} {v : List Int}

/-- **Each box** takes two integers, as long as there are any. -/
lemma runOn_checkBoxes_of_gives (h : a.Gives v d) (n : Nat) :
    ∃ b, (checkBoxes n).runOn a =
      (.ok ((List.range n).map fun i => ⟨v.getD (2 * i) 0, v.getD (2 * i + 1) 0⟩), b) := by
  induction n generalizing a v with
  | zero => exact ⟨a, rfl⟩
  | succ n ih =>
    obtain ⟨a₁, hy, h₁⟩ := h.int
    obtain ⟨a₂, hid, h₂⟩ := h₁.int
    obtain ⟨b, hrest⟩ := ih h₂
    refine ⟨b, ?_⟩
    have hbox : checkBox.runOn a = (.ok ⟨v.getD 0 0, v.tail.getD 0 0⟩, a₂) := by
      rw [checkBox, runOn_bind_of_ok ((runOn_int a).trans hy),
        runOn_bind_of_ok ((runOn_int a₁).trans hid), runOn_pure]
    rw [checkBoxes, runOn_bind_of_ok hbox, runOn_bind_of_ok hrest, runOn_pure,
      List.range_succ_eq_map, List.map_cons, List.map_map]
    simp only [List.getD_eq_getElem?_getD, List.getElem?_tail, Nat.mul_zero, Nat.zero_add,
      Function.comp_def, Nat.mul_succ]

end Take

namespace Command

variable {c : Command} {v : List Int} {d : Arguments}

/-- A position, the number of the boxes, and two integers for each of them. -/
lemma instruction?_of_gives (h : c.token = OneLiner.checkBoxes.token) (hv : c.unread.Gives v d) :
    c.instruction? = .ok (some (.checkBoxes (v.getD 0 0)
      ((List.range (v.getD 1 0).toNat).map fun i =>
        ⟨v.getD (2 * i + 2) 0, v.getD (2 * i + 3) 0⟩))) := by
  have hkeyword : c.keyword? = some (.oneLiner .checkBoxes) := keyword?_eq_some_iff.mpr h
  obtain ⟨a, hx, ha⟩ := hv.int
  obtain ⟨b, hcount, hb⟩ := ha.int
  obtain ⟨e, hboxes⟩ := Take.runOn_checkBoxes_of_gives hb (v.tail.getD 0 0).toNat
  rw [instruction?_of_oneLiner hkeyword, OneLiner.instruction,
    Take.runOn_bind_of_ok ((Take.runOn_int _).trans hx),
    Take.runOn_bind_of_ok ((Take.runOn_int a).trans hcount), Take.runOn_bind_of_ok hboxes,
    Take.runOn_pure]
  simp only [List.getD_eq_getElem?_getD, List.getElem?_tail]
  rfl

/-- **Check boxes are filled up with zeros**, and reading never starts again. Take a command for
check boxes whose arguments hold no run of digits that is too long. Integers are read from them,
one after another, until one cannot be read. Let zeros follow the ones that were read. Then the
command gives the check boxes at the first number, as many of them as the second number says, and
none if that is below zero; the position and the number of each box are the next two. Only what was
read matters: anything that no integer starts may stand in the place of what is left, and behind
the field that could not be read any text may follow. -/
theorem checkBoxes_of_gives (c : Command) (h : c.token = OneLiner.checkBoxes.token) :
    (c.arguments.DigitsFit → ∃ v d, c.unread.Gives v d) ∧
    ∀ v d, c.unread.Gives v d →
      let w (i : Nat) : Int := v.getD i 0
      c.instruction? = .ok (some (.checkBoxes (w 0)
        ((List.range (w 1).toNat).map fun i => ⟨w (2 * i + 2), w (2 * i + 3)⟩))) ∧
      ∃ read, c.arguments = read ++ d.rest ∧ Numeral.Absent d.rest ∧
        (∀ u, Numeral.Absent u →
          { c with arguments := read ++ u }.instruction? = c.instruction?) ∧
        (d.rest ≠ [] → ∀ u : Text, (∀ ch ∈ u.head?, Text.isBlank ch = true) →
          { c with arguments := read ++ (Text.word d.rest ++ u) }.instruction? =
            c.instruction?) := by
  have hunread {c : Command} (h : c.token = OneLiner.checkBoxes.token) :
      c.unread = .ofText c.arguments :=
    unread_of_keyword? (k := .oneLiner .checkBoxes) (keyword?_eq_some_iff.mpr h)
  constructor
  · intro hfit
    rw [hunread h]
    exact Arguments.exists_gives hfit
  · intro v d hv w
    refine ⟨instruction?_of_gives h hv, ?_⟩
    obtain ⟨read, hread, habsent, hhead, hreplace⟩ :=
      Arguments.Gives.exists_replace (hunread h ▸ hv)
    have hsame {c' : Command} {u : Text} (h' : c'.token = OneLiner.checkBoxes.token)
        (hc' : c'.arguments = read ++ u) (hu : Numeral.Absent u) :
        c'.instruction? = c.instruction? := by
      obtain ⟨e, he⟩ := hreplace u hu
      rw [← hc', ← hunread h'] at he
      rw [instruction?_of_gives h' he, instruction?_of_gives h hv]
    refine ⟨read, hread, habsent, fun u hu => hsame h rfl hu, fun hne u hu =>
      hsame h rfl (habsent.word_append ?_ hu)⟩
    obtain ⟨ch, t, ht⟩ := List.exists_cons_of_ne_nil hne
    rw [ht] at hhead ⊢
    rw [Text.word, List.takeWhile_cons_of_pos (by simp [hhead ch rfl])]
    exact List.cons_ne_nil _ _

/-- A field that is no integer comes in the middle of a box, and numbers come after it. -/
theorem checkBoxes_of_gives_broken :
    let c : Command := ⟨"TOGGS".toList, " 3 2 10 x 12 2".toList, 7⟩
    c.token = OneLiner.checkBoxes.token ∧ c.arguments.DigitsFit ∧
      c.unread.Gives [3, 2, 10] ⟨"x 12 2".toList, true⟩ ∧
      c.instruction? = .ok (some (.checkBoxes 3 [⟨10, 0⟩, ⟨0, 0⟩])) ∧
      { c with arguments := " 3 2 10 x\t8".toList }.instruction? = c.instruction? := by
  intro c
  have hfit : c.arguments.DigitsFit := Text.digitsFit_of_length (by decide)
  have hgives : c.unread.Gives [3, 2, 10] ⟨"x 12 2".toList, true⟩ :=
    .next (b := .ofText " 2 10 x 12 2".toList) (by decide) rfl
      (.next (b := .ofText " 10 x 12 2".toList) (by decide) rfl
        (.next (b := .ofText " x 12 2".toList) (by decide) rfl (.stuck (by decide) rfl)))
  obtain ⟨-, hchecks⟩ := checkBoxes_of_gives c rfl
  obtain ⟨hinstruction, read, hread, -, -, hfield⟩ := hchecks _ _ hgives
  have hpiece : read = " 3 2 10 ".toList :=
    (List.append_cancel_right (show " 3 2 10 ".toList ++ "x 12 2".toList = _ from hread)).symm
  refine ⟨rfl, hfit, hgives, hinstruction, ?_⟩
  have hsame := hfield (by decide) "\t8".toList (by rintro _ ⟨⟩; rfl)
  rwa [hpiece] at hsame

end Command

end Cutscene
