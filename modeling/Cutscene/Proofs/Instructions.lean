import Cutscene.Proofs.Take
import Cutscene.Reading.OneLiner

/-!
What a command is by itself.

It is one instruction, or nothing, or out of place; which of these, its token decides alone. Only
what a text command draws depends on the characters of its text.
-/

namespace Cutscene.Command

variable {c : Command} {x y : Int} {t : Text} {i : Instruction}

lemma keyword?_eq_some_iff {k : Keyword} : c.keyword? = some k ↔ c.token = k.token := by
  constructor
  · exact fun h => (Keyword.token_of_ofToken? h).symm
  · intro h
    rw [keyword?, h, Keyword.ofToken?_token]

/-! ### The three cases -/

lemma instruction?_of_meaningless (hk : c.keyword? = none) : c.instruction? = .ok none := by
  unfold instruction? readInstruction takeInstruction
  rw [hk]
  rfl

lemma instruction?_of_oneLiner {o : OneLiner} (hk : c.keyword? = some (.oneLiner o)) :
    c.instruction? = some <$> ((o.instruction c).runOn c.unread).1 := by
  unfold instruction? readInstruction takeInstruction
  simp only [hk, Take.runOn_map]

lemma instruction?_of_bound {k : Keyword} (hk : c.keyword? = some k) (h : ∀ o, k ≠ .oneLiner o) :
    c.instruction? = .error (c.fault .misplaced) := by
  unfold instruction? readInstruction takeInstruction
  rw [hk]
  cases k with
  | oneLiner o => exact absurd rfl (h o)
  | _ => rfl

/-- **A command with an instruction** is a one-line command, and its arguments give the
instruction. -/
lemma oneLiner_of_instruction? (h : c.instruction? = .ok (some i)) :
    ∃ o rest, c.keyword? = some (.oneLiner o) ∧
      (o.instruction c).runOn c.unread = (.ok i, rest) := by
  rcases hk : c.keyword? with _ | k
  · rw [instruction?_of_meaningless hk] at h
    cases h
  · by_cases hline : ∀ o, k ≠ .oneLiner o
    · rw [instruction?_of_bound hk hline] at h
      cases h
    · obtain ⟨o, rfl⟩ := not_forall_not.mp hline
      rw [instruction?_of_oneLiner hk] at h
      rcases hrun : (o.instruction c).runOn c.unread with ⟨e | j, rest⟩ <;> rw [hrun] at h
      · cases h
      · obtain rfl : j = i := Option.some.inj (Except.ok.inj h)
        exact ⟨o, rest, rfl, hrun⟩

/-- A command without an instruction has no meaning. -/
lemma keyword?_of_instruction?_none (h : c.instruction? = .ok none) : c.keyword? = none := by
  rcases hk : c.keyword? with _ | k
  · rfl
  · by_cases hline : ∀ o, k ≠ .oneLiner o
    · rw [instruction?_of_bound hk hline] at h
      cases h
    · obtain ⟨o, rfl⟩ := not_forall_not.mp hline
      rw [instruction?_of_oneLiner hk] at h
      rcases hrun : ((o.instruction c).runOn c.unread).1 with e | j <;> rw [hrun] at h <;> cases h

/-! ### Drawing -/

lemma sprite_eq_ok (h : c.sprite x y t = .ok i) :
    ∃ actor frame, Text.leadingInt ((t.drop 1).take 3) = .ok (some actor) ∧
      Text.leadingInt ((t.drop 4).take 2) = .ok (some frame) ∧
      i = .sprite (x + 2) (y + 1) actor frame := by
  unfold sprite at h
  split at h
  · cases h
  · rcases ha : Text.leadingInt ((t.drop 1).take 3) with e | actor <;> rw [ha] at h
    · cases h
    · rcases hf : Text.leadingInt ((t.drop 4).take 2) with e | frame <;> rw [hf] at h
      · cases h
      · rcases actor with _ | actor <;> rcases frame with _ | frame <;> cases h
        exact ⟨actor, frame, rfl, rfl, rfl⟩

/-- **A drawing** is a big text, a sprite or a plain text. -/
lemma drawing_eq_ok (h : c.drawing x y t = .ok i) :
    (∃ shift color rest, Text.splitAtColor? t = some (shift, color, rest) ∧
      i = .bigText (x + shift) y color rest) ∨
    c.sprite x y t = .ok i ∨
    (t ≠ [] ∧ t.head? ≠ some spriteMark ∧ Text.splitAtColor? t = none ∧ i = .text x y t) := by
  unfold drawing at h
  split at h
  · cases h
  · rename_i first rest
    rcases hsplit : Text.splitAtColor? (first :: rest) with _ | ⟨shift, color, after⟩ <;>
      simp only [hsplit] at h
    · split at h
      · exact .inr (.inl h)
      · rename_i hfirst
        cases h
        exact .inr (.inr ⟨by simp, by simpa using hfirst, rfl, rfl⟩)
    · cases h
      exact .inl ⟨shift, color, after, rfl, rfl⟩

end Cutscene.Command
