import Mathlib.Data.List.DropRight
import Mathlib.Tactic.Common
import Cutscene.Text.Basic

/-!
Where a text is cut: at the blanks around it, and at the first character of some kind.
-/

namespace Cutscene.Text

/-! ### The first character of some kind -/

section

variable {α : Type} {p : α → Bool} {s s' rest rest' : List α}

/-- What comes before the first element of another kind is taken. -/
lemma takeWhile_append (hs : ∀ c ∈ s, p c = true)
    (hr : ∀ c ∈ rest.head?, p c = false) : (s ++ rest).takeWhile p = s := by
  rw [List.takeWhile_append_of_pos hs]
  cases rest with
  | nil => rw [List.takeWhile_nil, List.append_nil]
  | cons c t => rw [List.takeWhile_cons_of_neg (by simp [hr c rfl]), List.append_nil]

lemma dropWhile_append (hs : ∀ c ∈ s, p c = true)
    (hr : ∀ c ∈ rest.head?, p c = false) : (s ++ rest).dropWhile p = rest := by
  rw [List.dropWhile_append_of_pos hs]
  cases rest with
  | nil => rfl
  | cons c t => rw [List.dropWhile_cons_of_neg (by simp [hr c rfl])]

/-- The elements of one kind are told from what follows them, if that starts with another kind. -/
lemma append_inj_of_kind (hs : ∀ c ∈ s, p c = true) (hs' : ∀ c ∈ s', p c = true)
    (hr : ∀ c ∈ rest.head?, p c = false) (hr' : ∀ c ∈ rest'.head?, p c = false)
    (h : s ++ rest = s' ++ rest') : s = s' ∧ rest = rest' := by
  constructor
  · rw [← takeWhile_append hs hr, h, takeWhile_append hs' hr']
  · rw [← dropWhile_append hs hr, h, dropWhile_append hs' hr']

end

/-- What is left starts with a character of another kind. -/
lemma head?_dropWhile {p : Char → Bool} {t : Text} : ∀ c ∈ (t.dropWhile p).head?, p c = false := by
  intro c hc
  have hhead := List.head?_dropWhile_not p t
  rw [Option.mem_def.mp hc] at hhead
  exact hhead

/-! ### Words -/

lemma word_append {w rest : Text} (hw : ∀ c ∈ w, isBlank c = false)
    (hr : ∀ c ∈ rest.head?, isBlank c = true) : word (w ++ rest) = w :=
  takeWhile_append (by simpa using hw) (by simpa using hr)

lemma afterWord_append {w rest : Text} (hw : ∀ c ∈ w, isBlank c = false)
    (hr : ∀ c ∈ rest.head?, isBlank c = true) : afterWord (w ++ rest) = rest :=
  dropWhile_append (by simpa using hw) (by simpa using hr)

/-- After a word comes a blank, or nothing. -/
lemma isBlank_head?_afterWord (t : Text) : ∀ c ∈ (afterWord t).head?, isBlank c = true :=
  fun c hc => by simpa using head?_dropWhile c hc

/-! ### Blanks -/

/-- Blanks are dropped up to a text that starts with a visible character. -/
lemma dropBlanks_append {b rest : Text} (hb : ∀ c ∈ b, isBlank c = true)
    (hr : ∀ c ∈ rest.head?, isBlank c = false) : dropBlanks (b ++ rest) = rest :=
  dropWhile_append hb hr

lemma mem_of_mem_dropBlanks {t : Text} {c : Char} (h : c ∈ dropBlanks t) : c ∈ t :=
  (List.dropWhile_suffix _).subset h

lemma mem_of_mem_trimEnd {t : Text} {c : Char} (h : c ∈ trimEnd t) : c ∈ t :=
  (List.rdropWhile_prefix isBlank t).subset h

lemma mem_of_mem_trim {t : Text} {c : Char} (h : c ∈ trim t) : c ∈ t :=
  mem_of_mem_dropBlanks (mem_of_mem_trimEnd h)

/-- What is trimmed at its end still has its start. -/
lemma head?_trimEnd {t : Text} {c : Char} (h : c ∈ (trimEnd t).head?) : c ∈ t.head? := by
  obtain ⟨rest, hrest⟩ : trimEnd t <+: t := List.rdropWhile_prefix isBlank t
  rw [← hrest, Option.mem_def, List.head?_append, Option.mem_def.mp h]
  rfl

lemma getLast?_trimEnd (t : Text) : ∀ c ∈ (trimEnd t).getLast?, isBlank c = false := by
  intro c hc
  rw [trimEnd, List.getLast?_reverse] at hc
  exact head?_dropWhile c hc

lemma trimEnd_eq_nil_iff {t : Text} : trimEnd t = [] ↔ ∀ c ∈ t, isBlank c = true :=
  List.rdropWhile_eq_nil_iff

/-- Blanks are taken from the end of what comes last, as long as that is not all blank. -/
lemma trimEnd_append {s t : Text} (h : trimEnd t ≠ []) : trimEnd (s ++ t) = s ++ trimEnd t := by
  have hne : t.reverse.dropWhile isBlank ≠ [] := fun hnil => h (by rw [trimEnd, hnil]; rfl)
  unfold trimEnd
  rw [List.reverse_append, List.dropWhile_append, if_neg (by simpa using hne),
    List.reverse_append, List.reverse_reverse]

/-- Nothing is taken from the end of a text beyond a visible character. -/
lemma trimEnd_append_of_visible {s : Text} (h : ∀ c ∈ s.getLast?, isBlank c = false) (t : Text) :
    trimEnd (s ++ t) = s ++ trimEnd t := by
  by_cases ht : trimEnd t = []
  · have hblank : ∀ c ∈ t.reverse, isBlank c = true := by
      simpa using trimEnd_eq_nil_iff.mp ht
    rw [ht, List.append_nil, trimEnd, List.reverse_append,
      dropWhile_append hblank (by simpa using h), List.reverse_reverse]
  · exact trimEnd_append ht

lemma trimEnd_of_visible {t : Text} (h : ∀ c ∈ t.getLast?, isBlank c = false) : trimEnd t = t := by
  simpa [trimEnd] using trimEnd_append_of_visible h []

end Cutscene.Text
