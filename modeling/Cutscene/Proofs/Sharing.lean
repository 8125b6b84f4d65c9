import Mathlib.Data.List.ReduceOption
import Mathlib.Logic.Function.Basic
import Cutscene.Proofs.Nesting
import Cutscene.Reading.Stream

/-!
Streams that share one cursor.

A stream holds no position of its own, so whichever is called next takes the next command. Over any
order of calls the streams deal the commands out among themselves: none is lost, and none is taken
twice. A stream takes its own marker without delivering it, and nothing at all once it is over.
-/

namespace Cutscene

/-- Streams that share a cursor, and which of them have been called before. -/
structure Sharing (ι : Type) where
  streams : ι → CommandStream
  called : ι → Bool
  cursor : Cursor

namespace Sharing

variable {ι : Type}

/-- A stream for each marker, none of which has been called. -/
def opened (markers : ι → Text) (c : Cursor) : Sharing ι :=
  ⟨fun i => .toMarker (markers i), fun _ => false, c⟩

/-- Where a call of a stream begins to read. The first call of a stream skips blanks. -/
def place (s : Sharing ι) (i : ι) : Cursor := if s.called i then s.cursor else s.cursor.skipBlanks

/-- A stream that has not been called is not over. -/
def Consistent (s : Sharing ι) : Prop :=
  ∀ i, (s.streams i).finished = true → s.called i = true

lemma consistent_opened (markers : ι → Text) (c : Cursor) : (opened markers c).Consistent := by
  rintro i ⟨⟩

/-- The blanks that a first call skips are not missed. -/
lemma upcoming_place (s : Sharing ι) (i : ι) : (s.place i).upcoming = s.cursor.upcoming := by
  unfold place
  split
  · rfl
  · exact s.cursor.upcoming_skipBlanks

variable [DecidableEq ι]

/-- Call one of the streams for its next command. -/
def call (s : Sharing ι) (i : ι) : Except Fault (Option Command) × Sharing ι :=
  let (answer, stream, after) := (s.streams i).next (s.place i)
  (answer, ⟨Function.update s.streams i stream, Function.update s.called i true, after⟩)

def run (s : Sharing ι) (calls : List ι) : Sharing ι := calls.foldl (fun s i => (s.call i).2) s

@[simp] lemma run_nil (s : Sharing ι) : s.run [] = s := rfl

@[simp] lemma run_cons (s : Sharing ι) (i : ι) (calls : List ι) :
    s.run (i :: calls) = (s.call i).2.run calls := rfl

/-- A call of a stream, and the command that it consumes, if any. -/
inductive Serves (s : Sharing ι) (i : ι) : Option Command → Prop
  /-- The stream is over and reads nothing. -/
  | ended (finished : (s.streams i).finished = true) (answer : (s.call i).1 = .ok none)
      (still : (s.call i).2.cursor = s.cursor) : Serves s i none
  | delivered {cmd : Command} (running : (s.streams i).finished = false)
      (first : s.cursor.upcoming = (cmd, (s.call i).2.cursor) :: (s.call i).2.cursor.upcoming)
      (other : cmd.token ≠ (s.streams i).marker) (answer : (s.call i).1 = .ok (some cmd)) :
      Serves s i (some cmd)
  /-- The marker comes, and is consumed as well. -/
  | closed {cmd : Command} (running : (s.streams i).finished = false)
      (first : s.cursor.upcoming = (cmd, (s.call i).2.cursor) :: (s.call i).2.cursor.upcoming)
      (own : cmd.token = (s.streams i).marker) (answer : (s.call i).1 = .ok none) :
      Serves s i (some cmd)
  /-- There is no command any more. -/
  | ranOut (running : (s.streams i).finished = false) (nothing : s.cursor.upcoming = [])
      (still : (s.call i).2.cursor.upcoming = [])
      (answer : (s.call i).1 = .error (.unterminated (s.streams i).marker)) : Serves s i none

/-! ### One call -/

lemma consistent_call {s : Sharing ι} (hs : s.Consistent) (i : ι) : (s.call i).2.Consistent := by
  intro j hj
  by_cases hji : j = i
  · subst hji
    exact Function.update_self ..
  · simp only [call, Function.update_of_ne hji] at hj ⊢
    exact hs j hj

lemma serves_of_finished {s : Sharing ι} (hs : s.Consistent) {i : ι}
    (h : (s.streams i).finished = true) : s.Serves i none := by
  have hplace : s.place i = s.cursor := if_pos (hs i h)
  have hnext := CommandStream.next_of_finished h s.cursor
  refine .ended h ?_ ?_ <;> simp only [call, hplace, hnext]

/-- **One call** consumes the first command ahead, if the stream is not over and there is one. -/
lemma exists_serves {s : Sharing ι} (hs : s.Consistent) (i : ι) : ∃ taken, s.Serves i taken := by
  rcases hf : (s.streams i).finished with _ | _
  · rcases hc : (s.place i).command? with _ | ⟨cmd, after⟩
    · have hnone := (s.upcoming_place i).symm.trans (Cursor.upcoming_of_command?_eq_none hc)
      have hnext : (s.streams i).next (s.place i) = (.error (.unterminated (s.streams i).marker),
          { s.streams i with finished := true }, (s.place i).toEnd) := by
        simp [CommandStream.next, hf, hc]
      refine ⟨none, .ranOut hf hnone ?_ ?_⟩
      · simpa only [call, hnext] using (s.place i).upcoming_toEnd
      · simp only [call, hnext]
    · have hfirst := (s.upcoming_place i).symm.trans (Cursor.upcoming_of_command? hc)
      by_cases hm : cmd.token = (s.streams i).marker
      · have hnext : (s.streams i).next (s.place i) =
            (.ok none, { s.streams i with finished := true }, after) := by
          simp [CommandStream.next, hf, hc, hm]
        exact ⟨some cmd, .closed hf (by simpa only [call, hnext] using hfirst) hm
          (by simp only [call, hnext])⟩
      · have hnext : (s.streams i).next (s.place i) = (.ok (some cmd), s.streams i, after) := by
          simp [CommandStream.next, hf, hc, hm]
        exact ⟨some cmd, .delivered hf (by simpa only [call, hnext] using hfirst) hm
          (by simp only [call, hnext])⟩
  · exact ⟨none, serves_of_finished hs hf⟩

/-- What a call consumes is what is no longer ahead after it. -/
lemma Serves.upcoming {s : Sharing ι} {i : ι} {taken : Option Command} (h : s.Serves i taken) :
    (s.call i).2.cursor.upcoming = s.cursor.upcoming.drop taken.toList.length ∧
      s.cursor.commands = taken.toList ++ (s.call i).2.cursor.commands := by
  unfold Cursor.commands
  cases h with
  | ended finished answer still => rw [still]; exact ⟨rfl, rfl⟩
  | delivered running first other answer => rw [first]; exact ⟨rfl, rfl⟩
  | closed running first own answer => rw [first]; exact ⟨rfl, rfl⟩
  | ranOut running nothing still answer => rw [nothing, still]; exact ⟨rfl, rfl⟩

lemma marker_call (s : Sharing ι) (i j : ι) :
    ((s.call i).2.streams j).marker = (s.streams j).marker := by
  have hnext (t : CommandStream) (c : Cursor) : (t.next c).2.1.marker = t.marker := by
    unfold CommandStream.next
    split
    · rfl
    · split
      · rfl
      · split <;> rfl
  by_cases hji : j = i
  · subst hji
    simp only [call, Function.update_self, hnext]
  · simp only [call, Function.update_of_ne hji]

/-- **A stream is over** after a call that it does not answer with a command. -/
lemma finished_call (s : Sharing ι) (i j : ι) :
    ((s.call i).2.streams j).finished = true ↔
      (s.streams j).finished = true ∨ (i = j ∧ ∀ cmd, (s.call i).1 ≠ .ok (some cmd)) := by
  have hnext (t : CommandStream) (c : Cursor) : (t.next c).2.1.finished = true ↔
      t.finished = true ∨ ∀ cmd, (t.next c).1 ≠ .ok (some cmd) := by
    unfold CommandStream.next
    split
    · simp_all
    · split
      · simp
      · split <;> simp_all
  by_cases hji : j = i
  · subst hji
    simpa [call] using hnext (s.streams j) (s.place j)
  · simp [call, Function.update_of_ne hji, Ne.symm hji]

/-! ### Any number of calls -/

lemma marker_run (s : Sharing ι) (calls : List ι) (j : ι) :
    ((s.run calls).streams j).marker = (s.streams j).marker := by
  induction calls generalizing s with
  | nil => rfl
  | cons i calls ih => rw [run_cons, ih, marker_call]

lemma finished_run (s : Sharing ι) (calls : List ι) (j : ι) :
    ((s.run calls).streams j).finished = true ↔
      (s.streams j).finished = true ∨ ∃ m, calls[m]? = some j ∧
        ∀ cmd, ((s.run (calls.take m)).call j).1 ≠ .ok (some cmd) := by
  induction calls generalizing s with
  | nil => simp
  | cons i calls ih =>
    rw [run_cons, ih, finished_call, or_assoc]
    refine or_congr_right ⟨?_, ?_⟩
    · rintro (⟨rfl, h⟩ | ⟨m, hm, h⟩)
      · exact ⟨0, rfl, h⟩
      · exact ⟨m + 1, hm, h⟩
    · rintro ⟨_ | m, hm, h⟩
      · obtain rfl : i = j := Option.some.inj hm
        exact .inl ⟨rfl, h⟩
      · exact .inr ⟨m, hm, h⟩

/-- **A run of calls** consumes one command after another, and every call its share of them. -/
lemma exists_taken {s : Sharing ι} (hs : s.Consistent) (calls : List ι) :
    ∃ taken : List (Option Command), taken.length = calls.length ∧
      (∀ k, (s.run (calls.take k)).cursor.upcoming =
          s.cursor.upcoming.drop (taken.take k).reduceOption.length ∧
        s.cursor.commands =
          (taken.take k).reduceOption ++ (s.run (calls.take k)).cursor.commands) ∧
      ∀ k i, calls[k]? = some i →
        ∃ t, taken[k]? = some t ∧ (s.run (calls.take k)).Serves i t := by
  -- by induction on the calls, of which the first consumes a command or none
  induction calls generalizing s with
  | nil => exact ⟨[], rfl, by simp, by simp⟩
  | cons i calls ih =>
    obtain ⟨t, ht⟩ := exists_serves hs i
    obtain ⟨hahead, hcommands⟩ := ht.upcoming
    obtain ⟨taken, hlength, hrest, hserves⟩ := ih (consistent_call hs i)
    have hcons (l : List (Option Command)) :
        (t :: l).reduceOption = t.toList ++ l.reduceOption := by
      cases t <;> rfl
    refine ⟨t :: taken, by simp [hlength], fun k => ?_, fun k j hj => ?_⟩
    · cases k with
      | zero => exact ⟨rfl, rfl⟩
      | succ k =>
        obtain ⟨hupcoming, hshare⟩ := hrest k
        simp only [List.take_succ_cons, run_cons, hcons, List.length_append, hupcoming, hahead,
          List.drop_drop, true_and]
        rw [hcommands, hshare, List.append_assoc]
    · cases k with
      | zero =>
        obtain rfl : i = j := Option.some.inj hj
        exact ⟨t, rfl, ht⟩
      | succ k => exact hserves k j hj

/-- **Streams that share a cursor deal its commands out.** Open a stream for each marker on one
cursor and call them in any order, as often as one likes. Then every call consumes one command or
none, and what the first calls consume are the first commands ahead of where the streams were
opened, each with its line and in order; all others are still ahead. A call that consumes a command
delivers it, unless it has the token of the stream's marker. A stream is over once a call of it has
not delivered a command, and from then on reads nothing. A call fails only if its stream is not
over and all commands have been consumed. -/
theorem shared_commands_dealt_out (markers : ι → Text) (c : Cursor) (calls : List ι) :
    let before (k : Nat) : Sharing ι := (opened markers c).run (calls.take k)
    ∃ taken : List (Option Command), taken.length = calls.length ∧
      (∀ k, (before k).cursor.upcoming = c.upcoming.drop (taken.take k).reduceOption.length ∧
        c.commands = (taken.take k).reduceOption ++ (before k).cursor.commands) ∧
      ∀ k i, calls[k]? = some i →
        ((before k).streams i).marker = markers i ∧
        (((before k).streams i).finished = true ↔ ∃ m < k, calls[m]? = some i ∧
          ∀ cmd, ((before m).call i).1 ≠ .ok (some cmd)) ∧
        (∃ t, taken[k]? = some t ∧ (before k).Serves i t) ∧
        ∀ e, ((before k).call i).1 = .error e →
          e = .unterminated (markers i) ∧ c.commands = (taken.take k).reduceOption := by
  intro before
  obtain ⟨taken, hlength, hshare, hserves⟩ := exists_taken (consistent_opened markers c) calls
  refine ⟨taken, hlength, hshare, fun k i hi => ?_⟩
  have hmarker : ((before k).streams i).marker = markers i := marker_run _ _ i
  obtain ⟨t, ht, hserve⟩ := hserves k i hi
  refine ⟨hmarker, ?_, ⟨t, ht, hserve⟩, fun e he => ?_⟩
  · rw [finished_run]
    constructor
    · rintro (⟨⟨⟩⟩ | ⟨m, hm, hanswer⟩)
      obtain ⟨hmk, hmi⟩ : m < k ∧ calls[m]? = some i := by
        simpa [List.getElem?_take] using hm
      rw [List.take_take, Nat.min_eq_left hmk.le] at hanswer
      exact ⟨m, hmk, hmi, hanswer⟩
    · rintro ⟨m, hmk, hmi, hanswer⟩
      refine .inr ⟨m, by rw [List.getElem?_take_of_lt hmk, hmi], ?_⟩
      rwa [List.take_take, Nat.min_eq_left hmk.le]
  · cases hserve with
    | ranOut running nothing still answer =>
      have hleft : (before k).cursor.commands = [] := by rw [Cursor.commands, nothing, List.map_nil]
      refine ⟨?_, (hshare k).2.trans (by rw [hleft, List.append_nil])⟩
      rw [answer, hmarker] at he
      exact (Except.error.inj he).symm
    | ended _ answer | delivered _ _ _ answer | closed _ _ _ answer =>
      rw [answer] at he
      cases he

/-- The stream up to B is called first, so it takes the command that would end the other one. -/
example : ((opened (fun b => if b then "B".toList else "A".toList)
    (Cursor.start "//A 1\nor\n//C\n//B".toList)).run [true, false]).cursor.commands =
      [⟨"B".toList, [], 4⟩] := by
  decide +kernel

end Sharing

end Cutscene
