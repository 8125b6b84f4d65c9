import Cutscene.Proofs.Take
import Cutscene.Reading.Loading

/-!
The number of a command's line is carried along and never looked at.

Give every command another line number: the same actions come out, in the same order, and
faults and events are the same but for the line they name. The fact is proved once for each
function, from the reading of arguments up to the body of a script.
-/

namespace Cutscene

variable (g : Int → Int)

/-- The command on another line. -/
def Command.mapLine (c : Command) : Command := { c with line := g c.line }

/-- The fault with another line, if it has one. -/
def Fault.mapLine : Fault → Fault
  | .script e => .script { e with line := e.line.map g }
  | f => f

/-- The event with another line, if it has one. -/
def Event.mapLine : Event → Event
  | .ignored command line => .ignored command (g line)
  | .boxEnds command line => .boxEnds command (g line)
  | e => e

/-- The reply with other lines in its fault. -/
def Reply.mapLine {σ α : Type} : Reply σ α → Reply σ α
  | .fail e => .fail (e.mapLine g)
  | r => r

/-- A reply and what was noted, with other lines in both. -/
def Reply.mapLines {σ α : Type} (r : Reply σ α × Log) : Reply σ α × Log :=
  (r.1.mapLine g, r.2.map (Event.mapLine g))

@[simp] lemma Numeral.mapError_read (n : Numeral) : n.read.mapError (Fault.mapLine g) = n.read := by
  unfold Numeral.read
  split <;> rfl

lemma mapError_bind {ε α β : Type} (h : ε → ε) (x : Except ε α) (f : α → Except ε β) :
    (x >>= f).mapError h = x.mapError h >>= fun v => (f v).mapError h := by
  cases x <;> rfl

@[simp] lemma Text.mapError_leadingInt (t : Text) :
    (Text.leadingInt t).mapError (Fault.mapLine g) = Text.leadingInt t := by
  unfold Text.leadingInt
  split
  · rfl
  · rename_i n _
    rw [map_eq_pure_bind, mapError_bind, n.mapError_read]
    rfl

namespace Command

@[simp] lemma mapLine_unread (c : Command) : (c.mapLine g).unread = c.unread := rfl

@[simp] lemma mapLine_keyword? (c : Command) : (c.mapLine g).keyword? = c.keyword? := rfl

@[simp] lemma mapLine_fault (c : Command) (cause : Cause) :
    (c.mapLine g).fault cause = (c.fault cause).mapLine g := rfl

lemma ofLine?_mapLine (line : Int) (t : Text) :
    ofLine? (g line) t = (ofLine? line t).map (mapLine g) := by
  unfold ofLine?
  split <;> rfl

end Command

/-! ### Reading arguments -/

/-- The second computation does what the first does, with other lines in its faults. -/
def Take.Moved {α : Type} (t u : Take α) : Prop :=
  ∀ a, u.runOn a = ((t.runOn a).1.mapError (Fault.mapLine g), (t.runOn a).2)

namespace Take.Moved

variable {α β : Type} {g}

lemma pure (v : α) : Moved g (Pure.pure v) (Pure.pure v) := fun _ => rfl

lemma throw (e : Fault) : Moved (α := α) g (throw e) (throw (e.mapLine g)) := fun _ => rfl

lemma lift {x y : Except Fault α} (h : y = x.mapError (Fault.mapLine g)) :
    Moved g (liftM x) (liftM y) := fun a => by simp [h]

lemma int : Moved g int int := fun a => by
  simp only [runOn_int, Arguments.int]
  split
  · rfl
  · split
    · rfl
    · simp

lemma word : Moved g word word := fun _ => rfl

lemma text : Moved g text text := fun _ => rfl

lemma bind {t u : Take α} {f k : α → Take β} (h : Moved g t u) (hf : ∀ v, Moved g (f v) (k v)) :
    Moved g (t >>= f) (u >>= k) := by
  intro a
  rw [runOn_bind, runOn_bind, h a]
  rcases runOn t a with ⟨e | v, b⟩
  · rfl
  · exact hf v b

lemma map {t u : Take α} (f : α → β) (h : Moved g t u) : Moved g (f <$> t) (f <$> u) :=
  h.bind fun v => pure (f v)

lemma intWith (c : Command) (valid : Int → Bool) :
    Moved g (intWith c valid) (intWith (c.mapLine g) valid) := by
  refine int.bind fun n => ?_
  cases h : valid n with
  | false => simpa [h] using throw (c.fault .badArgument)
  | true => simpa [h] using pure n

lemma someWord (c : Command) : Moved g (someWord c) (someWord (c.mapLine g)) := by
  refine word.bind fun w => ?_
  cases w with
  | nil => exact throw _
  | cons x w => exact pure _

lemma checkBox : Moved g checkBox checkBox :=
  int.bind fun y => int.bind fun id => pure (CheckBox.mk y id)

lemma checkBoxes (n : Nat) : Moved g (checkBoxes n) (checkBoxes n) := by
  induction n with
  | zero => exact pure []
  | succ n ih => exact checkBox.bind fun b => ih.bind fun bs => pure (b :: bs)

lemma boxFrame : Moved g boxFrame boxFrame :=
  int.bind fun y => int.bind fun height => int.bind fun width => pure (BoxFrame.mk y width height)

end Take.Moved

/-! ### Instructions -/

lemma Command.sprite_mapLine (c : Command) (x y : Int) (t : Text) :
    (c.mapLine g).sprite x y t = (c.sprite x y t).mapError (Fault.mapLine g) := by
  unfold Command.sprite
  split
  · rfl
  · rw [mapError_bind, Text.mapError_leadingInt]
    refine congrArg _ (funext fun actor => ?_)
    rw [mapError_bind, Text.mapError_leadingInt]
    refine congrArg _ (funext fun frame => ?_)
    rcases actor with _ | actor <;> rcases frame with _ | frame <;> rfl

lemma Command.drawing_mapLine (c : Command) (x y : Int) (t : Text) :
    (c.mapLine g).drawing x y t = (c.drawing x y t).mapError (Fault.mapLine g) := by
  rcases t with _ | ⟨first, t⟩
  · rfl
  · unfold Command.drawing
    rcases Text.splitAtColor? (first :: t) with _ | ⟨shift, color, rest⟩
    · by_cases h : first = spriteMark
      · simpa [h] using c.sprite_mapLine g x y (spriteMark :: t)
      · simp only [h, if_false]; rfl
    · rfl

lemma OneLiner.instruction_mapLine (c : Command) (o : OneLiner) :
    Take.Moved g (o.instruction c) (o.instruction (c.mapLine g)) := by
  cases o with
  | delay | talk | saveSlots => exact (Take.Moved.intWith c _).bind fun n => .pure _
  | picture | palette => exact (Take.Moved.someWord c).bind fun w => .pure _
  | selectionMark => exact Take.Moved.int.bind fun y => .pure _
  | text =>
    exact Take.Moved.int.bind fun x => Take.Moved.int.bind fun y => Take.Moved.text.bind fun t =>
      .lift (c.drawing_mapLine g x y t)
  | checkBoxes =>
    exact Take.Moved.int.bind fun x => Take.Moved.int.bind fun count =>
      (Take.Moved.checkBoxes _).bind fun bs => .pure _
  | _ => exact .pure _

lemma Command.takeInstruction_mapLine (c : Command) :
    Take.Moved g c.takeInstruction (c.mapLine g).takeInstruction := by
  unfold Command.takeInstruction
  rw [c.mapLine_keyword? g]
  rcases c.keyword? with _ | k
  · exact .pure none
  · cases k with
    | oneLiner o => exact (o.instruction_mapLine g c).map some
    | _ => exact .throw _

lemma Command.instruction?_mapLine (c : Command) :
    (c.mapLine g).instruction? = c.instruction?.mapError (Fault.mapLine g) :=
  congrArg Prod.fst (c.takeInstruction_mapLine g c.unread)

/-! ### Constructs -/

lemma MessageBox.feed_mapLine (lines : List Text) (c : Command) :
    feed lines (c.mapLine g) = Reply.mapLines g (feed lines c) := by
  unfold feed
  rw [c.mapLine_keyword? g, c.mapLine_unread g]
  split
  · split <;> rfl
  · rfl
  · rfl

lemma Pages.feed_mapLine (p : OpenPages) (c : Command) :
    feed p (c.mapLine g) = Reply.mapLines g (feed p c) := by
  unfold feed
  rw [c.mapLine_keyword? g, c.instruction?_mapLine g]
  split
  · rfl
  · rfl
  · rcases c.instruction? with e | _ | i <;> rfl

namespace Body

lemma feedPlain_mapLine (actions : Script) (c : Command) :
    feedPlain actions (c.mapLine g) = Reply.mapLines g (feedPlain actions c) := by
  unfold feedPlain
  rw [c.mapLine_keyword? g, c.mapLine_unread g, c.instruction?_mapLine g]
  split
  · rfl
  · rfl
  · have h := congrArg Prod.fst (Take.Moved.int (g := g) c.unread)
    rw [Take.runOn_int] at h
    rcases hs : c.unread.int.1 with e | slot
    · rw [hs] at h
      exact congrArg (Reply.fail ·, []) (Except.error.inj h)
    · rfl
  · have h := congrArg Prod.fst (Take.Moved.boxFrame (g := g) c.unread)
    rcases hs : (Take.boxFrame.runOn c.unread).1 with e | frame
    · rw [hs] at h
      exact congrArg (Reply.fail ·, []) (Except.error.inj h)
    · rfl
  · rcases c.instruction? with e | _ | i <;> rfl

lemma feedBox_mapLine (actions : Script) (frame : BoxFrame) (lines : List Text) (c : Command) :
    feedBox actions frame lines (c.mapLine g) =
      Reply.mapLines g (feedBox actions frame lines c) := by
  unfold feedBox
  rw [MessageBox.feed_mapLine]
  rcases MessageBox.feed lines c with ⟨lines | lines | lines | e, log⟩
  · rfl
  · rfl
  · simp only [Reply.mapLines, Reply.mapLine, feedPlain_mapLine, List.map_append]
  · rfl

lemma feedPages_mapLine (actions : Script) (p : OpenPages) (c : Command) :
    feedPages actions p (c.mapLine g) = Reply.mapLines g (feedPages actions p c) := by
  unfold feedPages
  rw [Pages.feed_mapLine]
  rcases Pages.feed p c with ⟨p | a | a | e, log⟩ <;> rfl

/-- **Line numbers are only carried along.** A body makes of a command on another line what it
makes of the command, but for the line that its fault and its events name. -/
theorem feed_mapLine (b : Body) (c : Command) :
    b.feed (c.mapLine g) = Reply.mapLines g (b.feed c) := by
  obtain ⟨actions, inside⟩ := b
  cases inside with
  | nothing => exact feedPlain_mapLine g actions c
  | box frame lines => exact feedBox_mapLine g actions frame lines c
  | pages p => exact feedPages_mapLine g actions p c

/-- A fault that names a line names the line of the command that caused it. -/
theorem line_of_feed_eq_fail {b : Body} {c : Command} {e : ScriptError} {log : Log} {n : Int}
    (h : b.feed c = (.fail (.script e), log)) (hn : e.line = some n) : n = c.line := by
  -- moving every line to the command's own changes nothing, so it cannot change the fault
  have hc : c.mapLine (fun _ => c.line) = c := rfl
  have h' := b.feed_mapLine (fun _ => c.line) c
  rw [hc, h] at h'
  have he : e = { e with line := e.line.map fun _ => c.line } := by
    simpa [Reply.mapLines, Reply.mapLine, Fault.mapLine] using congrArg Prod.fst h'
  have hline := congrArg ScriptError.line he
  rw [hn] at hline
  simpa using hline

end Body

end Cutscene
