import Mathlib.Tactic.Common
import Cutscene.Source.Cursor

/-!
The lines of a text, and how they fit together.
-/

namespace Cutscene.Text

lemma lines_append_newline (s t : Text) : lines (s ++ '\n' :: t) = lines s ++ lines t :=
  List.splitOn_append_cons_self s t

/-- Lines without a line break in them are what their joined text splits into. -/
lemma lines_intercalate {ts : List Text} (h : ts ≠ []) (hts : ∀ t ∈ ts, '\n' ∉ t) :
    lines (['\n'].intercalate ts) = ts :=
  List.splitOn_intercalate '\n' hts h

lemma lines_of_not_mem {t : Text} (h : '\n' ∉ t) : lines t = [t] := List.splitOn_eq_singleton h

lemma lines_nil : lines [] = [[]] := lines_of_not_mem List.not_mem_nil

lemma newline_not_mem_of_mem_lines {s t : Text} (h : t ∈ lines s) : '\n' ∉ t := by
  -- a text is cut at its first line break, and what comes before that is a line
  induction s generalizing t with
  | nil =>
    rw [lines_nil, List.mem_singleton] at h
    simp [h]
  | cons c s ih =>
    by_cases hc : c = '\n'
    · subst hc
      rw [show '\n' :: s = [] ++ '\n' :: s from rfl, lines_append_newline, lines_nil] at h
      rcases List.mem_append.mp h with h | h
      · rw [List.mem_singleton.mp h]
        exact List.not_mem_nil
      · exact ih h
    · unfold lines at h ih
      rw [List.splitOn_cons_eq_if_modifyHead, if_neg (by simpa using hc)] at h
      obtain ⟨u, us, hu⟩ := List.exists_cons_of_ne_nil (List.splitOn_ne_nil '\n' s)
      rw [hu] at h ih
      rcases List.mem_cons.mp h with rfl | h
      · have := ih (t := u) List.mem_cons_self
        simp only [List.mem_cons, not_or]
        exact ⟨Ne.symm hc, this⟩
      · exact ih (List.mem_cons_of_mem _ h)

/-- A text may also be cut within its first line. -/
lemma lines_cut {s passed rest : Text} {below : List Text}
    (h : lines s = (passed ++ rest) :: below) :
    s = passed ++ ['\n'].intercalate (rest :: below) ∧
      lines (['\n'].intercalate (rest :: below)) = rest :: below ∧ '\n' ∉ passed := by
  have hmem {t : Text} (ht : t ∈ (passed ++ rest) :: below) : '\n' ∉ t :=
    newline_not_mem_of_mem_lines (h ▸ ht)
  have hfresh : '\n' ∉ passed ++ rest := hmem List.mem_cons_self
  rw [List.mem_append, not_or] at hfresh
  refine ⟨?_, lines_intercalate (by simp) (List.forall_mem_cons.mpr
    ⟨hfresh.2, fun t ht => hmem (List.mem_cons_of_mem _ ht)⟩), hfresh.1⟩
  rw [← intercalate_lines s, h]
  cases below <;> simp [List.intercalate_cons_cons]

/-- A text has one line more than line breaks. -/
lemma length_lines (s : Text) : (lines s).length = s.count '\n' + 1 := by
  induction s with
  | nil => simp [lines_nil]
  | cons c s ih =>
    by_cases hc : c = '\n'
    · subst hc
      rw [show '\n' :: s = [] ++ '\n' :: s from rfl, lines_append_newline, lines_nil]
      simp [ih]
    · unfold lines at ih ⊢
      rw [List.splitOn_cons_eq_if_modifyHead, if_neg (by simpa using hc), List.length_modifyHead,
        ih, List.count_cons_of_ne hc]

/-- The first lines of a text, without a line break after the last of them. -/
def firstLines (n : Nat) (s : Text) : Text := ['\n'].intercalate ((lines s).take n)

@[simp] lemma firstLines_zero (s : Text) : firstLines 0 s = [] := rfl

lemma lines_firstLines {n : Nat} (h : n ≠ 0) (s : Text) :
    lines (firstLines n s) = (lines s).take n := by
  refine lines_intercalate ?_ fun t ht => newline_not_mem_of_mem_lines (List.mem_of_mem_take ht)
  rw [Ne, List.take_eq_nil_iff, not_or]
  exact ⟨h, lines_ne_nil s⟩

end Cutscene.Text
