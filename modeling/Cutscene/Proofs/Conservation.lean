import Cutscene.Action.Kind
import Cutscene.Listing
import Cutscene.Proofs.Steps

/-!
No command is lost, and none is used twice.

A command with a meaning leaves marks in the script: an action, a line of a box, a page, the end of
a block. They can be read off the script again, and they stand in the order of the commands that left
them, so each is there as often as the commands that leave it. A command without a meaning leaves an
event in the log, and so does one that closes a message box.
-/

namespace Cutscene

/-- What a command leaves in a script. -/
inductive Mark
  | action (k : Kind)
  /-- A text, a big text or a sprite. The command's text tells which of them it is. -/
  | drawing
  | boxLine
  | page
  | pagesEnd
  | scriptEnd
deriving DecidableEq, Repr

/-! ### Marks of commands -/

/-- The kind of the instruction, where it is always the same and no other command's. -/
def OneLiner.kind? : OneLiner → Option Kind
  | fadeIn => some .fadeIn
  | fadeOut => some .fadeOut
  | delay => some .delay
  | talk => some .talk
  | stopTalking => some .stopTalking
  | disableMenu => some .disableMenu
  | keyBindings => some .keyBindings
  | saveSlots => some .saveSlots
  | picture => some .picture
  | selectionMark => some .selectionMark
  | palette => some .palette
  | waitForInput => some .waitForInput
  | offsetText => some .offsetText
  | demoAfterTimeout => some .demoAfterTimeout
  | checkBoxes => some .checkBoxes
  | text | pressAnyKey => none

def OneLiner.mark (o : OneLiner) : Mark := (o.kind?.map Mark.action).getD .drawing

def Keyword.marks : Keyword → List Mark
  | oneLiner o => [o.mark]
  | pages => [.action .pages, .page]
  | page => [.page]
  | pagesEnd => [.pagesEnd]
  | box => [.action .messageBox]
  | boxText | boxBlank => [.boxLine]
  | menu => [.action .rememberSelection, .action .fadeInBeforeWait]
  | scriptEnd => [.scriptEnd]

def Command.marks (c : Command) : List Mark := c.keyword?.toList.flatMap Keyword.marks

/-! ### Marks of scripts -/

def Kind.mark : Kind → Mark
  | text | bigText | sprite => .drawing
  | k => .action k

def Instruction.marks (i : Instruction) : List Mark :=
  i.kind.mark :: List.replicate i.boxLines.length .boxLine

namespace Action

mutual

def marks : Action → List Mark
  | single i => i.marks
  | pages first others =>
    .action .pages :: .page :: marksOfScript first ++ marksOfPages others ++ [.pagesEnd]

def marksOfScript : List Action → List Mark
  | [] => []
  | a :: s => marks a ++ marksOfScript s

def marksOfPages : List (List Action) → List Mark
  | [] => []
  | page :: ps => .page :: marksOfScript page ++ marksOfPages ps

end

mutual

/-- The action, and all actions on its pages. -/
def parts : Action → List Action
  | single i => [single i]
  | pages first others => pages first others :: partsOfScript first ++ partsOfPages others

def partsOfScript : List Action → List Action
  | [] => []
  | a :: s => parts a ++ partsOfScript s

def partsOfPages : List (List Action) → List Action
  | [] => []
  | page :: ps => partsOfScript page ++ partsOfPages ps

end

/-- The lines of a message box. -/
def boxLines : Action → List Text
  | single i => i.boxLines
  | pages _ _ => []

/-- The pages that there are to choose from. -/
def choices : Action → List Script
  | single _ => []
  | pages first others => first :: others

/-- The marks of an action without those of the actions on its pages. -/
def ownMarks : Action → List Mark
  | single i => i.marks
  | pages _ others => .action .pages :: List.replicate (others.length + 1) .page ++ [.pagesEnd]

end Action

namespace Script

def marks (s : Script) : List Mark := Action.marksOfScript s

/-- All actions of a script, those on pages included. -/
def parts (s : Script) : List Action := Action.partsOfScript s

@[simp] lemma marks_append (s t : Script) : marks (s ++ t) = marks s ++ marks t := by
  unfold marks
  induction s with
  | nil => rfl
  | cons a s ih => rw [List.cons_append, Action.marksOfScript, ih, Action.marksOfScript,
      List.append_assoc]

@[simp] lemma marks_nil : marks [] = [] := rfl

@[simp] lemma marks_singleton (a : Action) : marks [a] = a.marks := List.append_nil _

end Script

namespace Action

/-- The marks of pages, each after the one that opens it. -/
def pageMarks (pages : List Script) : List Mark := pages.flatMap fun page => .page :: page.marks

lemma marksOfPages_eq (ps : List Script) : marksOfPages ps = pageMarks ps := by
  induction ps with
  | nil => rfl
  | cons page ps ih => rw [marksOfPages, ih]; rfl

lemma marks_ofPagesAndLast (before : List Script) (last : Script) :
    (ofPagesAndLast before last).marks =
      .action .pages :: pageMarks (before ++ [last]) ++ [.pagesEnd] := by
  cases before with
  | nil => simp [ofPagesAndLast, marks, pageMarks, marksOfPages, Script.marks]
  | cons first others =>
    simp [ofPagesAndLast, marks, marksOfPages_eq, pageMarks, Script.marks]

mutual

lemma count_marks (m : Mark) (a : Action) :
    a.marks.count m = (a.parts.flatMap ownMarks).count m := by
  cases a with
  | single i => simp [marks, parts, ownMarks]
  | pages first others =>
    have hfirst := count_marksOfScript m first
    have hothers := count_marksOfPages m others
    simp only [marks, parts, ownMarks, List.flatMap_cons, List.flatMap_append, List.count_append,
      List.count_cons, List.replicate_succ, List.cons_append, List.count_nil] at hfirst hothers ⊢
    omega

lemma count_marksOfScript (m : Mark) (s : List Action) :
    (marksOfScript s).count m = ((partsOfScript s).flatMap ownMarks).count m := by
  cases s with
  | nil => rfl
  | cons a s =>
    rw [marksOfScript, partsOfScript, List.flatMap_append, List.count_append, List.count_append,
      count_marks m a, count_marksOfScript m s]

lemma count_marksOfPages (m : Mark) (ps : List (List Action)) :
    (marksOfPages ps).count m =
      (List.replicate ps.length Mark.page ++ (partsOfPages ps).flatMap ownMarks).count m := by
  cases ps with
  | nil => rfl
  | cons page ps =>
    have hpage := count_marksOfScript m page
    have hps := count_marksOfPages m ps
    simp only [marksOfPages, partsOfPages, List.flatMap_append, List.count_append, List.count_cons,
      List.length_cons, List.replicate_succ, List.cons_append] at hpage hps ⊢
    omega

end

end Action

/-! ### One-line commands -/

/-- All values of the computation have the property. -/
def Take.Gives {α : Type} (t : Take α) (P : α → Prop) : Prop :=
  ∀ a v b, t.runOn a = (.ok v, b) → P v

namespace Take.Gives

variable {α β : Type} {P : α → Prop}

lemma pure {v : α} (h : P v) : Gives (Pure.pure v) P := by
  rintro a _ _ ⟨⟩
  exact h

lemma lift {x : Except Fault α} (h : ∀ v, x = .ok v → P v) : Gives (liftM x) P := by
  intro a v b hv
  rw [runOn_lift] at hv
  exact h v (congrArg Prod.fst hv)

lemma bind {t : Take β} {f : β → Take α} (h : ∀ v, (f v).Gives P) : (t >>= f).Gives P := by
  intro a w b hw
  obtain ⟨v, a', -, hw⟩ := runOn_bind_eq_ok_iff.mp hw
  exact h v a' w b hw

end Take.Gives

lemma Command.drawing_marks {c : Command} {x y : Int} {t : Text} {i : Instruction}
    (h : c.drawing x y t = .ok i) : i.marks = [.drawing] := by
  rcases drawing_eq_ok h with ⟨shift, color, rest, -, rfl⟩ | hsprite | ⟨-, -, -, rfl⟩
  · rfl
  · obtain ⟨actor, frame, -, -, rfl⟩ := sprite_eq_ok hsprite
    rfl
  · rfl

/-- **A one-line command** leaves its own mark, whatever its arguments are. -/
lemma OneLiner.instruction_gives (c : Command) (o : OneLiner) :
    (o.instruction c).Gives fun i => i.marks = [o.mark] := by
  cases o with
  | delay | talk | saveSlots | picture | palette | selectionMark => exact .bind fun v => .pure rfl
  | text => exact .bind fun x => .bind fun y => .bind fun t => .lift fun i => Command.drawing_marks
  | checkBoxes => exact .bind fun x => .bind fun count => .bind fun bs => .pure rfl
  | _ => exact .pure rfl

lemma Command.marks_of_keyword? {c : Command} {k : Keyword} (h : c.keyword? = some k) :
    c.marks = k.marks := by
  rw [marks, h]
  exact List.append_nil _

lemma Command.marks_of_keyword?_eq_none {c : Command} (h : c.keyword? = none) : c.marks = [] := by
  rw [marks, h]
  rfl

lemma Command.marks_of_instruction? {c : Command} {i : Instruction}
    (h : c.instruction? = .ok (some i)) : i.marks = c.marks := by
  obtain ⟨o, rest, hk, hrun⟩ := oneLiner_of_instruction? h
  rw [OneLiner.instruction_gives c o _ _ _ hrun, marks_of_keyword? hk]
  rfl

/-! ### Bodies -/

namespace Body

def Inside.marks : Inside → List Mark
  | .nothing => []
  | .box _ lines => .action .messageBox :: List.replicate lines.length .boxLine
  | .pages p => .action .pages :: Action.pageMarks (p.closed ++ [p.current])

/-- The marks that a body has so far, those of an open construct at the end. -/
def marks (b : Body) : List Mark := b.actions.marks ++ b.inside.marks

lemma marks_add (actions new : Script) : (add actions new).marks = actions.marks ++ new.marks := by
  simp [add, marks, Inside.marks]

/-- A box that becomes an action has left its marks already. -/
lemma Outside.marks_eq {c : Command} {b : Body} {actions : Script} {log : Log}
    (h : Outside c b actions log) : Script.marks actions = b.marks := by
  cases h with
  | nothing => exact (List.append_nil _).symm
  | box actions frame lines =>
    rw [Script.marks_append, Script.marks_singleton]
    rfl

/-- **One command** adds its marks to those of the body. -/
lemma Step.marks_eq {c : Command} {b b' : Body} {log : Log} (h : Step c b b' log) :
    b'.marks = b.marks ++ c.marks := by
  cases h with
  | boxText hk | boxBlank hk =>
    rw [Command.marks_of_keyword? hk]
    simp [marks, Inside.marks, Keyword.marks, List.replicate_succ']
  | pagesEnd hk =>
    rw [Command.marks_of_keyword? hk, marks_add, Script.marks_singleton,
      Action.marks_ofPagesAndLast]
    simp [marks, Inside.marks, Keyword.marks]
  | page hk =>
    rw [Command.marks_of_keyword? hk]
    simp [marks, Inside.marks, Keyword.marks, Action.pageMarks]
  | onPage hi =>
    rw [← Command.marks_of_instruction? hi]
    simp [marks, Inside.marks, Action.pageMarks, Action.marks]
  | ignoredOnPage hk =>
    rw [Command.marks_of_keyword?_eq_none hk, List.append_nil]
  | pages hout hk =>
    rw [Command.marks_of_keyword? hk, ← hout.marks_eq]
    rfl
  | box hout hk =>
    rw [Command.marks_of_keyword? hk, ← hout.marks_eq]
    rfl
  | menu hout hk =>
    rw [Command.marks_of_keyword? hk, marks_add, hout.marks_eq]
    rfl
  | oneLine hout hi =>
    rw [← Command.marks_of_instruction? hi, marks_add, hout.marks_eq, Script.marks_singleton]
    rfl
  | ignored hout hk =>
    rw [Command.marks_of_keyword?_eq_none hk, marks_add, hout.marks_eq]
    rfl

/-- **The marks of a script** are those of its commands, in their order, up to the last command. -/
theorem Completes.marks_eq {cs : List Command} {b : Body} {s : Script} {log : Log}
    (h : Completes cs b s log) : b.marks ++ cs.flatMap Command.marks = s.marks ++ [.scriptEnd] := by
  induction h with
  | scriptEnd hk hout =>
    rw [List.flatMap_singleton, Command.marks_of_keyword? hk, hout.marks_eq]
    rfl
  | step first _ ih => rw [List.flatMap_cons, ← List.append_assoc, ← first.marks_eq, ih]

end Body

/-! ### Counting -/

/-- How many of the commands have the keyword's token. -/
def Keyword.timesIn (k : Keyword) (cs : List Command) : Nat := cs.countP (·.token = k.token)

/-- How many actions of a script are of the kind, those on pages included. -/
def Kind.timesIn (k : Kind) (s : Script) : Nat := s.parts.countP (·.kind = k)

lemma Mark.foldr_count_cons {β : Type} [DecidableEq β] (labels : List β) (x : β) (xs : List β) :
    labels.foldr (fun b n => (x :: xs).count b + n) 0 =
      labels.count x + labels.foldr (fun b n => xs.count b + n) 0 := by
  induction labels with
  | nil => rfl
  | cons b labels ih =>
    rw [List.foldr_cons, ih, List.foldr_cons, List.count_cons, List.count_cons, Bool.beq_comm]
    omega

/-- A mark that comes from some labels is there as often as these labels are. -/
lemma Mark.count_flatMap {α β : Type} [DecidableEq β] {m : Mark} {f : α → List Mark} {g : α → β}
    {labels : List β} (h : ∀ a, (f a).count m = labels.count (g a)) (l : List α) :
    (l.flatMap f).count m = labels.foldr (fun b n => (l.map g).count b + n) 0 := by
  induction l with
  | nil => simp
  | cons a l ih =>
    rw [List.flatMap_cons, List.count_append, ih, h, List.map_cons, foldr_count_cons]

lemma Keyword.timesIn_eq (k : Keyword) (cs : List Command) :
    k.timesIn cs = (cs.filterMap Command.keyword?).count k := by
  rw [List.count_filterMap]
  refine List.countP_congr fun c _ => ?_
  simp [Command.keyword?_eq_some_iff]

lemma Keyword.mem_all (k : Keyword) : k ∈ all := by
  cases k with
  | oneLiner o => cases o <;> decide
  | _ => decide

/-- The commands that leave a mark are as many as the marks of this sort. -/
lemma Keyword.count_marks {m : Mark} (ks : List Keyword)
    (h : ∀ k ∈ all, k.marks.count m = ks.count k) (cs : List Command) :
    (cs.flatMap Command.marks).count m = ks.foldr (fun k n => k.timesIn cs + n) 0 := by
  have hcs : cs.flatMap Command.marks = (cs.filterMap Command.keyword?).flatMap Keyword.marks := by
    induction cs with
    | nil => rfl
    | cons c cs ih =>
      rw [List.flatMap_cons, ih, List.filterMap_cons, Command.marks]
      rcases c.keyword? with _ | k <;> simp
  rw [hcs, Mark.count_flatMap fun k => h k k.mem_all, List.map_id']
  simp only [timesIn_eq]

/-- The actions that leave a mark are as many as the marks of this sort. -/
lemma Kind.count_marks {m : Mark} (ks : List Kind)
    (h : ∀ a : Action, a.ownMarks.count m = ks.count a.kind) (s : Script) :
    s.marks.count m = ks.foldr (fun k n => k.timesIn s + n) 0 := by
  rw [Script.marks, Action.count_marksOfScript, Mark.count_flatMap h]
  simp only [timesIn, List.count_eq_countP, List.countP_map]
  rfl

/-- A mark that an action leaves for each of some things is there as often as they are. -/
lemma Script.count_marks_eq_length {α : Type} {m : Mark} {f : Action → List α}
    (h : ∀ a : Action, a.ownMarks.count m = (f a).length) (s : Script) :
    s.marks.count m = (s.parts.flatMap f).length := by
  rw [marks, Action.count_marksOfScript, List.count_flatMap, List.length_flatMap]
  exact congrArg List.sum (List.map_congr_left fun a _ => h a)

/-! ### The marks of each sort -/

lemma Kind.mark_of_kind? {o : OneLiner} {k : Kind} (h : o.kind? = some k) : k.mark = .action k := by
  cases o <;> cases h <;> rfl

lemma Kind.eq_of_mark {j k : Kind} (h : j.mark = .action k) : j = k := by
  cases j <;> cases h <;> rfl

/-- Only one command leaves the mark of an instruction's kind. -/
lemma Keyword.count_marks_of_kind? {o : OneLiner} {k : Kind} (h : o.kind? = some k) :
    ∀ j ∈ all, j.marks.count (.action k) = [oneLiner o].count j := by
  have hall : ∀ o ∈ OneLiner.all, ∀ k ∈ o.kind?, ∀ j ∈ all,
      j.marks.count (.action k) = [oneLiner o].count j := by
    decide +kernel
  exact hall o (by cases o <;> decide) k h

lemma Instruction.count_marks {m : Mark} (hm : m ≠ .boxLine) (i : Instruction) :
    i.marks.count m = [i.kind.mark].count m := by
  rw [marks, List.count_cons, List.count_replicate, List.count_singleton]
  simp [Ne.symm hm]

namespace Action

/-- Only the actions of one kind leave its mark. -/
lemma count_ownMarks_action {k : Kind} (hk : k.mark = .action k) (a : Action) :
    a.ownMarks.count (.action k) = [k].count a.kind := by
  cases a with
  | single i =>
    have hiff : i.kind.mark = .action k ↔ k = i.kind :=
      ⟨fun h => (Kind.eq_of_mark h).symm, fun h => h ▸ hk⟩
    rw [ownMarks, Instruction.count_marks (by simp), kind]
    simp [List.count_singleton, hiff]
  | pages first others =>
    by_cases h : k = .pages
    · simp [ownMarks, kind, List.count_replicate, h]
    · simp [ownMarks, kind, List.count_replicate, h, Ne.symm h]

lemma count_ownMarks_drawing (a : Action) :
    a.ownMarks.count .drawing = [Kind.text, .bigText, .sprite].count a.kind := by
  cases a with
  | single i =>
    rw [ownMarks, Instruction.count_marks (by simp), kind]
    cases i.kind <;> rfl
  | pages first others => simp [ownMarks, kind, List.count_replicate]

lemma count_ownMarks_pagesEnd (a : Action) :
    a.ownMarks.count .pagesEnd = [Kind.pages].count a.kind := by
  cases a with
  | single i =>
    rw [ownMarks, Instruction.count_marks (by simp), kind]
    cases i <;> rfl
  | pages first others => simp [ownMarks, kind, List.count_replicate]

lemma count_ownMarks_scriptEnd (a : Action) :
    a.ownMarks.count .scriptEnd = ([] : List Kind).count a.kind := by
  cases a with
  | single i =>
    rw [ownMarks, Instruction.count_marks (by simp)]
    cases i.kind <;> rfl
  | pages first others => simp [ownMarks, List.count_replicate]

lemma count_ownMarks_boxLine (a : Action) : a.ownMarks.count .boxLine = a.boxLines.length := by
  cases a with
  | single i =>
    rw [ownMarks, Instruction.marks, List.count_cons, List.count_replicate_self]
    cases i.kind <;> rfl
  | pages first others => simp [ownMarks, boxLines, List.count_replicate]

lemma count_ownMarks_page (a : Action) : a.ownMarks.count .page = a.choices.length := by
  cases a with
  | single i =>
    rw [ownMarks, Instruction.count_marks (by simp)]
    cases i.kind <;> rfl
  | pages first others => simp [ownMarks, choices]

end Action

/-! ### The log -/

def Event.isIgnored : Event → Bool
  | ignored _ _ => true
  | _ => false

def Event.isBoxEnd : Event → Bool
  | boxEnds _ _ => true
  | _ => false

def Command.boxEnd (c : Command) : Event := .boxEnds c.token c.line

instance (c : Command) : Decidable c.InBox := inferInstanceAs (Decidable (_ ∨ _))

/-- The first command that is not a line of a box. -/
def Command.closer? (cs : List Command) : Option Command := cs.find? fun c => ¬ c.InBox

/-- For each command that opens a box, the one that closes it. -/
def Command.closers : List Command → List Command
  | [] => []
  | c :: cs => if c.keyword? = some .box then (closer? cs).toList ++ closers cs else closers cs

lemma Command.closers_of_ne {c : Command} (h : c.keyword? ≠ some .box) (cs : List Command) :
    closers (c :: cs) = closers cs := if_neg h

lemma Command.closer?_of_inBox {c : Command} (h : c.InBox) (cs : List Command) :
    closer? (c :: cs) = closer? cs := by
  simp [closer?, h]

lemma Command.closer?_of_not_inBox {c : Command} (h : ¬ c.InBox) (cs : List Command) :
    closer? (c :: cs) = some c := by
  simp [closer?, h]

/-- Every box is closed before the script ends. -/
lemma Command.length_closers (before : List Command) {last : Command}
    (h : last.keyword? = some .scriptEnd) :
    (closers (before ++ [last])).length = Keyword.box.timesIn (before ++ [last]) := by
  have hlast : ¬ last.InBox := by simp [InBox, h]
  induction before with
  | nil =>
    rw [List.nil_append, closers_of_ne (by simp [h]), Keyword.timesIn_eq, List.filterMap_cons, h]
    rfl
  | cons c before ih =>
    rw [Keyword.timesIn_eq] at ih ⊢
    rw [List.cons_append, List.filterMap_cons]
    by_cases hc : c.keyword? = some .box
    · have hsome : (closer? (before ++ [last])).isSome := by
        rw [closer?, List.find?_isSome]
        exact ⟨last, by simp, by simpa using hlast⟩
      obtain ⟨closer, hcloser⟩ := Option.isSome_iff_exists.mp hsome
      rw [closers, if_pos hc, hcloser, hc, List.length_append, ih]
      simp [Nat.add_comm]
    · rw [closers_of_ne hc, ih]
      rcases hk : c.keyword? with _ | k
      · rfl
      · have hne : k ≠ .box := by
          rintro rfl
          exact hc hk
        simp [hne]

namespace Body

variable {c : Command} {b b' : Body} {s : Script} {log : Log}

/-- The commands that close a box, the one that is open now included. -/
def closers (b : Body) (cs : List Command) : List Command :=
  match b.inside with
  | .box _ _ => (Command.closer? cs).toList ++ Command.closers cs
  | .nothing | .pages _ => Command.closers cs

lemma Outside.ignored_eq {actions : Script} (h : Outside c b actions log) :
    log.filter Event.isIgnored = [] := by
  cases h <;> rfl

lemma Outside.boxEnds_eq {actions : Script} (h : Outside c b actions log) (cs : List Command) :
    (b.closers (c :: cs)).map Command.boxEnd =
      log.filter Event.isBoxEnd ++ (Command.closers (c :: cs)).map Command.boxEnd := by
  cases h with
  | nothing => rfl
  | box actions frame lines foreign =>
    simp only [closers, Command.closer?_of_not_inBox foreign]
    rfl

/-- A command that means nothing is noted, and no other one as such. -/
lemma Step.ignored_eq (h : Step c b b' log) :
    log.filter Event.isIgnored = if c.keyword? = none then [c.ignored] else [] := by
  cases h with
  | boxText hk | boxBlank hk | pagesEnd hk | page hk => rw [hk]; rfl
  | ignoredOnPage hk => rw [hk]; rfl
  | onPage hi =>
    obtain ⟨o, -, hk, -⟩ := Command.oneLiner_of_instruction? hi
    rw [hk]; rfl
  | pages hout hk | box hout hk | menu hout hk => rw [hout.ignored_eq, hk]; rfl
  | oneLine hout hi =>
    obtain ⟨o, -, hk, -⟩ := Command.oneLiner_of_instruction? hi
    rw [hout.ignored_eq, hk]; rfl
  | ignored hout hk => rw [List.filter_append, hout.ignored_eq, hk]; rfl

/-- A box that a command closes is noted, and no other one. -/
lemma Step.boxEnds_eq (h : Step c b b' log) (cs : List Command) :
    (b.closers (c :: cs)).map Command.boxEnd =
      log.filter Event.isBoxEnd ++ (b'.closers cs).map Command.boxEnd := by
  cases h with
  | boxText hk | boxBlank hk =>
    have hin : c.InBox := by simp [Command.InBox, hk]
    simp [closers, Command.closer?_of_inBox hin, Command.closers_of_ne, hk]
  | pagesEnd hk | page hk | ignoredOnPage hk =>
    simp [closers, add, Command.closers_of_ne, Command.ignored, Event.isBoxEnd, hk]
  | onPage hi =>
    obtain ⟨o, -, hk, -⟩ := Command.oneLiner_of_instruction? hi
    simp [closers, Command.closers_of_ne, hk]
  | pages hout hk | menu hout hk =>
    rw [hout.boxEnds_eq, Command.closers_of_ne (by simp [hk])]
    rfl
  | box hout hk =>
    rw [hout.boxEnds_eq, Command.closers, if_pos hk]
    rfl
  | oneLine hout hi =>
    obtain ⟨o, -, hk, -⟩ := Command.oneLiner_of_instruction? hi
    rw [hout.boxEnds_eq, Command.closers_of_ne (by simp [hk])]
    rfl
  | ignored hout hk =>
    rw [hout.boxEnds_eq, Command.closers_of_ne (by simp [hk]), List.filter_append]
    simp [closers, add, Command.ignored, Event.isBoxEnd]

namespace Completes

variable {cs : List Command}

lemma exists_last (h : Completes cs b s log) :
    ∃ before last, cs = before ++ [last] ∧ last.keyword? = some .scriptEnd := by
  induction h with
  | @scriptEnd c _ _ _ hk _ => exact ⟨[], c, rfl, hk⟩
  | step _ _ ih =>
    obtain ⟨before, last, rfl, hk⟩ := ih
    exact ⟨_ :: before, last, rfl, hk⟩

lemma ignored_eq (h : Completes cs b s log) :
    log.filter Event.isIgnored = (cs.filter fun c => c.keyword? = none).map Command.ignored := by
  induction h with
  | scriptEnd hk hout =>
    rw [hout.ignored_eq, List.filter_singleton]
    simp [hk]
  | step first _ ih =>
    simp only [List.filter_append, first.ignored_eq, ih, List.filter_cons, decide_eq_true_eq]
    split <;> rfl

lemma boxEnds_eq (h : Completes cs b s log) :
    log.filter Event.isBoxEnd = (b.closers cs).map Command.boxEnd := by
  induction h with
  | scriptEnd hk hout =>
    rw [hout.boxEnds_eq, Command.closers_of_ne (by simp [hk])]
    exact (List.append_nil _).symm
  | step first _ ih => rw [List.filter_append, ih, first.boxEnds_eq]

lemma isIgnored_or_isBoxEnd (h : Completes cs b s log) :
    ∀ e ∈ log, (e.isIgnored ∨ e.isBoxEnd) ∧ e.level = .debug := by
  have hout {c : Command} {b : Body} {actions : Script} {log : Log} (h : Outside c b actions log) :
      ∀ e ∈ log, (e.isIgnored ∨ e.isBoxEnd) ∧ e.level = .debug := by
    cases h with
    | nothing => simp
    | box => simp [Event.isBoxEnd, Event.level]
  have hignored (c : Command) : ∀ e ∈ [c.ignored], (e.isIgnored ∨ e.isBoxEnd) ∧ e.level = .debug := by
    simp [Command.ignored, Event.isIgnored, Event.level]
  induction h with
  | scriptEnd _ h => exact hout h
  | step first _ ih =>
    refine List.forall_mem_append.mpr ⟨?_, ih⟩
    cases first with
    | boxText | boxBlank | pagesEnd | page | onPage => simp
    | ignoredOnPage => exact hignored _
    | pages h | box h | menu h | oneLine h => exact hout h
    | ignored h => exact List.forall_mem_append.mpr ⟨hout h, hignored _⟩

/-- A mark is as frequent among the commands as in the script, but for the end marker's. -/
lemma count_marks_eq (h : Completes cs Body.empty s log) (m : Mark) :
    s.marks.count m + [Mark.scriptEnd].count m = (cs.flatMap Command.marks).count m := by
  rw [← List.count_append, ← h.marks_eq]
  rfl

/-- A kind of action and a command that leave the same mark, and nothing else does. -/
lemma timesIn_eq (h : Completes cs Body.empty s log) {k : Kind} (j : Keyword)
    (hk : k.mark = .action k) (hj : ∀ i ∈ Keyword.all, i.marks.count (.action k) = [j].count i) :
    k.timesIn s = j.timesIn cs := by
  have hcount := h.count_marks_eq (.action k)
  rw [Kind.count_marks [k] (Action.count_ownMarks_action hk), Keyword.count_marks [j] hj] at hcount
  simpa using hcount

end Completes

end Body

/-! ### Whole scripts -/

/-- **How a script and a log account for the commands**: every command is there once, and nothing
else is there. -/
structure Script.Accounts (cs : List Command) (s : Script) (log : Log) : Prop where
  ends : ∃ last ∈ cs.getLast?, last.token = Keyword.scriptEnd.token
  scriptEnds : Keyword.scriptEnd.timesIn cs = 1
  boxes : Kind.messageBox.timesIn s = Keyword.box.timesIn cs
  boxLines : (s.parts.flatMap Action.boxLines).length =
    Keyword.boxText.timesIn cs + Keyword.boxBlank.timesIn cs
  blocks : Kind.pages.timesIn s = Keyword.pages.timesIn cs
  blockEnds : Kind.pages.timesIn s = Keyword.pagesEnd.timesIn cs
  pages : (s.parts.flatMap Action.choices).length =
    Keyword.pages.timesIn cs + Keyword.page.timesIn cs
  selections : Kind.rememberSelection.timesIn s = Keyword.menu.timesIn cs
  fades : Kind.fadeInBeforeWait.timesIn s = Keyword.menu.timesIn cs
  drawings : Kind.text.timesIn s + Kind.bigText.timesIn s + Kind.sprite.timesIn s =
    (Keyword.oneLiner .text).timesIn cs + (Keyword.oneLiner .pressAnyKey).timesIn cs
  oneLines : ∀ (o : OneLiner) (k : Kind), o.kind? = some k →
    k.timesIn s = (Keyword.oneLiner o).timesIn cs
  ignored : log.filter Event.isIgnored =
    (cs.filter fun c => c.keyword? = none).map Command.ignored
  boxEnds : log.filter Event.isBoxEnd = (Command.closers cs).map Command.boxEnd
  boxEndCount : (log.filter Event.isBoxEnd).length = Keyword.box.timesIn cs
  nothingElse : ∀ e ∈ log, (e.isIgnored ∨ e.isBoxEnd) ∧ e.level = .debug

/-- **No command is lost or used twice.** A script accounts for the commands that were read for it,
which are those ahead of the position where it starts, up to its end marker. -/
theorem Script.accounts_of_read {c : Cursor} {s : Script} (h : (read c).result = .ok s) :
    ∃ cs, c.commands = cs ++ (read c).cursor.commands ∧ Accounts cs s (read c).log := by
  obtain ⟨cs, hcs, hcompletes⟩ := Body.completes_of_read h
  refine ⟨cs, hcs, ?_⟩
  obtain ⟨before, last, rfl, hk⟩ := hcompletes.exists_last
  have hcount := hcompletes.count_marks_eq
  constructor
  case ends => exact ⟨last, by simp, Command.keyword?_eq_some_iff.mp hk⟩
  case scriptEnds =>
    have hend := hcount .scriptEnd
    rw [Keyword.count_marks [.scriptEnd] (by decide),
      Kind.count_marks [] Action.count_ownMarks_scriptEnd] at hend
    simpa using hend.symm
  case boxes => exact hcompletes.timesIn_eq .box rfl (by decide)
  case boxLines =>
    have hlines := hcount .boxLine
    rw [Keyword.count_marks [.boxText, .boxBlank] (by decide),
      count_marks_eq_length Action.count_ownMarks_boxLine] at hlines
    simpa using hlines
  case blocks => exact hcompletes.timesIn_eq .pages rfl (by decide)
  case blockEnds =>
    have hends := hcount .pagesEnd
    rw [Keyword.count_marks [.pagesEnd] (by decide),
      Kind.count_marks [.pages] Action.count_ownMarks_pagesEnd] at hends
    simpa using hends
  case pages =>
    have hpages := hcount .page
    rw [Keyword.count_marks [.pages, .page] (by decide),
      count_marks_eq_length Action.count_ownMarks_page] at hpages
    simpa using hpages
  case selections => exact hcompletes.timesIn_eq .menu rfl (by decide)
  case fades => exact hcompletes.timesIn_eq .menu rfl (by decide)
  case drawings =>
    have hdrawings := hcount .drawing
    rw [Keyword.count_marks [.oneLiner .text, .oneLiner .pressAnyKey] (by decide),
      Kind.count_marks [.text, .bigText, .sprite] Action.count_ownMarks_drawing] at hdrawings
    simpa [Nat.add_assoc] using hdrawings
  case oneLines =>
    intro o k ho
    exact hcompletes.timesIn_eq _ (Kind.mark_of_kind? ho) (Keyword.count_marks_of_kind? ho)
  case ignored => exact hcompletes.ignored_eq
  case boxEnds => exact hcompletes.boxEnds_eq
  case boxEndCount =>
    have hlength := congrArg List.length hcompletes.boxEnds_eq
    rw [List.length_map] at hlength
    exact hlength.trans (Command.length_closers before hk)
  case nothingElse => exact hcompletes.isIgnored_or_isBoxEnd

/-- A box that is closed by a command without a meaning, and a block of one page. -/
theorem Script.accounts_of_read_box_and_page :
    ∃ cs, (Cursor.start
        "//CENTERWINDOW\n//SKLINE\n//NOISE\n//PAGESSTART\n//PAGESEND\n//END\n//WAIT".toList).commands =
          cs ++ [⟨"WAIT".toList, [], 7⟩] ∧
      Accounts cs [.single (.messageBox 0 0 0 [[]]), .pages [] []]
        [.boxEnds "NOISE".toList 3, .ignored "NOISE".toList 3] := by
  obtain ⟨hread, hcursor, hlog⟩ :
      let o := read (Cursor.start
        "//CENTERWINDOW\n//SKLINE\n//NOISE\n//PAGESSTART\n//PAGESEND\n//END\n//WAIT".toList)
      o.result = .ok [.single (.messageBox 0 0 0 [[]]), .pages [] []] ∧
        o.cursor.commands = [⟨"WAIT".toList, [], 7⟩] ∧
        o.log = [.boxEnds "NOISE".toList 3, .ignored "NOISE".toList 3] := by
    decide +kernel
  have haccounts := accounts_of_read hread
  rwa [hcursor, hlog] at haccounts

end Cutscene
