import Mathlib.Tactic.Common
import Cutscene.Source.Arguments

/-!
Computations that read arguments, run on some arguments.

Each way to build such a computation has an equation for its run. Other modules rewrite with
these and never open the monad.
-/

namespace Cutscene.Take

variable {α β : Type}

@[simp] lemma runOn_pure (v : α) (a : Arguments) : runOn (pure v : Take α) a = (.ok v, a) := rfl

@[simp] lemma runOn_throw (e : Fault) (a : Arguments) :
    runOn (throw e : Take α) a = (.error e, a) := rfl

@[simp] lemma runOn_lift (x : Except Fault α) (a : Arguments) :
    runOn (liftM x : Take α) a = (x, a) := by
  cases x <;> rfl

@[simp] lemma runOn_int (a : Arguments) : runOn int a = a.int := rfl

@[simp] lemma runOn_word (a : Arguments) : runOn word a = (.ok a.word.1, a.word.2) := rfl

@[simp] lemma runOn_text (a : Arguments) : runOn text a = (.ok a.text.1, a.text.2) := rfl

lemma runOn_bind (t : Take α) (f : α → Take β) (a : Arguments) :
    runOn (t >>= f) a =
      match runOn t a with
      | (.ok v, b) => runOn (f v) b
      | (.error e, b) => (.error e, b) := by
  have h : runOn (t >>= f) a =
      match (runOn t a).1 with
      | .ok v => runOn (f v) (runOn t a).2
      | .error e => (.error e, (runOn t a).2) := by
    simp only [runOn, ExceptT.run, bind, ExceptT.bind, ExceptT.mk, StateT.run, StateT.bind,
      ExceptT.bindCont]
    rcases t a with ⟨e | v, b⟩ <;> rfl
  rw [h]
  rcases runOn t a with ⟨e | v, b⟩ <;> rfl

lemma runOn_map (g : α → β) (t : Take α) (a : Arguments) :
    runOn (g <$> t) a = (g <$> (runOn t a).1, (runOn t a).2) := by
  rw [show g <$> t = t >>= fun v => pure (g v) from rfl, runOn_bind]
  rcases runOn t a with ⟨e | v, b⟩ <;> rfl

/-- A computation goes on after a step that gave a value. -/
lemma runOn_bind_of_ok {t : Take α} {f : α → Take β} {a b : Arguments} {v : α}
    (h : runOn t a = (.ok v, b)) : runOn (t >>= f) a = runOn (f v) b := by
  rw [runOn_bind, h]

/-- A sequence gives a value when its first step does and the rest does after it. -/
lemma runOn_bind_eq_ok_iff {t : Take α} {f : α → Take β} {a b : Arguments} {w : β} :
    runOn (t >>= f) a = (.ok w, b) ↔
      ∃ v a', runOn t a = (.ok v, a') ∧ runOn (f v) a' = (.ok w, b) := by
  rw [runOn_bind]
  rcases runOn t a with ⟨e | v, a'⟩
  · constructor
    · intro h
      cases h
    · rintro ⟨_, _, ⟨⟩, _⟩
  · constructor
    · intro h
      exact ⟨v, a', rfl, h⟩
    · rintro ⟨_, _, ⟨⟩, h⟩
      exact h

end Cutscene.Take
