import Cutscene.Listing
import Cutscene.Proofs.Location

/-!
Where the numbers of a script come from.

A number that is read stands in the text as a numeral, or is zero because there is none. The numbers
of a script are these, but a drawing may stand further to the right than its command says, and a few
numbers are fixed. So if all numerals of a text are short, then all numbers of its scripts can be
written.
-/

namespace Cutscene

/-- The number is that of a numeral in the text, or zero. -/
def Text.Holds (s : Text) (n : Int) : Prop :=
  ∃ d : Numeral, d.digits <:+: s ∧ (∀ c ∈ d.digits, c.isDigit = true) ∧ n = d.value

/-- The number is one of a numeral in the text or zero, or not much above it. -/
def Text.Reaches (s : Text) (n : Int) : Prop :=
  ∃ m, ∃ distance : Nat, s.Holds m ∧ distance ≤ max s.length pressAnyKeyActor.toNat ∧
    n = m + distance

/-- All numerals of the text have fewer digits than may be read, and so has its length. -/
structure Text.Modest (s : Text) : Prop where
  digits : ∀ d, d <:+: s → (∀ c ∈ d, c.isDigit = true) → d.length < digitLimit
  length : s.length < 10 ^ (digitLimit - 1)

namespace Text

variable {s t : Text} {n : Int}

lemma holds_zero (s : Text) : s.Holds 0 := ⟨⟨false, []⟩, List.nil_infix, by simp, rfl⟩

lemma Holds.mono (h : s.Holds n) (hs : s <:+: t) : t.Holds n := by
  obtain ⟨d, hd, h⟩ := h
  exact ⟨d, hd.trans hs, h⟩

lemma Holds.reaches_add (h : s.Holds n) {distance : Nat}
    (hd : distance ≤ max s.length pressAnyKeyActor.toNat) : s.Reaches (n + distance) :=
  ⟨n, distance, h, hd, rfl⟩

lemma Holds.reaches (h : s.Holds n) : s.Reaches n := by
  simpa using h.reaches_add (Nat.zero_le _)

/-- A fixed number is reached from zero. -/
lemma reaches_of_le (s : Text) (h0 : 0 ≤ n) (h : n ≤ pressAnyKeyActor) : s.Reaches n := by
  have hd : n.toNat ≤ max s.length pressAnyKeyActor.toNat :=
    (Int.toNat_le_toNat h).trans (Nat.le_max_right _ _)
  have := (holds_zero s).reaches_add hd
  rwa [Int.zero_add, Int.toNat_of_nonneg h0] at this

/-! ### Short numerals -/

lemma Modest.digitsFit (h : s.Modest) : s.DigitsFit :=
  fun d hd hdigits => (h.digits d hd hdigits).le

lemma modest_of_length (h : s.length < digitLimit) : s.Modest where
  digits _ hd _ := hd.length_le.trans_lt h
  length := (Nat.le_sub_one_of_lt h).trans_lt (Nat.lt_pow_self (by decide))

lemma Holds.natAbs_lt (h : s.Holds n) (hs : s.Modest) : n.natAbs < 10 ^ (digitLimit - 1) := by
  obtain ⟨⟨negative, digits⟩, hinfix, hdigits, rfl⟩ := h
  have hvalue : (Numeral.value ⟨negative, digits⟩).natAbs = Nat.ofDigitChars 10 digits 0 := by
    cases negative <;> simp [Numeral.value]
  have hlength : digits.length < digitLimit := hs.digits digits hinfix hdigits
  rw [hvalue]
  exact (ofDigitChars_lt hdigits).trans_le
    (Nat.pow_le_pow_right (by decide) (Nat.le_sub_one_of_lt hlength))

/-- **Short numerals** make numbers that can be written. -/
lemma Reaches.writable (h : s.Reaches n) (hs : s.Modest) : Writable n := by
  obtain ⟨m, distance, hm, hdistance, rfl⟩ := h
  have hbound := hm.natAbs_lt hs
  have hlength := hs.length
  have hfixed : pressAnyKeyActor.toNat < 10 ^ (digitLimit - 1) :=
    (show pressAnyKeyActor.toNat < 10 ^ 3 by decide).trans_le
      (Nat.pow_le_pow_right (by decide) (by decide))
  refine writable_of_natAbs_lt ?_
  rw [show digitLimit = digitLimit - 1 + 1 from rfl, Nat.pow_succ]
  generalize 10 ^ (digitLimit - 1) = bound at *
  omega

end Text

/-! ### Reading arguments -/

/-- From arguments in the text, only values with the property come, and what is left is in the
text. -/
def Take.From {α : Type} (s : Text) (t : Take α) (P : α → Prop) : Prop :=
  ∀ a, a.rest <:+: s → (t.runOn a).2.rest <:+: s ∧ ∀ v, (t.runOn a).1 = .ok v → P v

lemma Numeral.holds_of_read {t rest : Text} {d : Numeral} {n : Int} (h : scan? t = some (d, rest))
    (hn : d.read = .ok n) : t.Holds n := by
  refine ⟨d, digits_isInfix h, (length_of_scan? h).1, ?_⟩
  unfold read at hn
  split at hn <;> cases hn
  rfl

lemma Text.holds_of_leadingInt {t : Text} {n : Int} (h : leadingInt t = .ok (some n)) :
    t.Holds n := by
  unfold leadingInt at h
  split at h
  · cases h
  · rename_i d hd
    obtain ⟨⟨d, rest⟩, hscan, rfl⟩ := Option.map_eq_some_iff.mp hd
    rcases hread : d.read with e | m <;> rw [hread] at h <;> cases h
    exact (Numeral.holds_of_read hscan hread).mono (List.dropWhile_suffix _).isInfix

namespace Take.From

variable {α β : Type} {s : Text} {P : α → Prop} {Q : β → Prop}

lemma pure {v : α} (h : P v) : From s (Pure.pure v) P := by
  refine fun a ha => ⟨ha, ?_⟩
  rintro _ ⟨⟩
  exact h

lemma throw (e : Fault) : From s (throw e) P := fun a ha => ⟨ha, fun v hv => by cases hv⟩

lemma lift {x : Except Fault α} (h : ∀ v, x = .ok v → P v) : From s (liftM x) P := by
  intro a ha
  rw [runOn_lift]
  exact ⟨ha, h⟩

lemma bind {t : Take α} {f : α → Take β} (ht : t.From s P) (hf : ∀ v, P v → (f v).From s Q) :
    (t >>= f).From s Q := by
  intro a ha
  obtain ⟨hrest, hvalue⟩ := ht a ha
  rw [runOn_bind]
  rcases hrun : t.runOn a with ⟨e | v, b⟩ <;> rw [hrun] at hrest hvalue
  · exact ⟨hrest, fun w hw => by cases hw⟩
  · exact hf v (hvalue v rfl) b hrest

lemma int : From s int s.Holds := by
  refine fun a ha => ⟨a.int_suffix.isInfix.trans ha, fun n hn => ?_⟩
  rw [runOn_int] at hn
  unfold Arguments.int at hn
  split at hn
  · cases hn
    exact Text.holds_zero s
  · split at hn
    · cases hn
      exact Text.holds_zero s
    · rename_i hscan
      exact (Numeral.holds_of_read hscan hn).mono ((List.dropWhile_suffix _).isInfix.trans ha)

lemma word : From s word fun w => w <:+: s ∧ ∀ c ∈ w, Text.isBlank c = false := by
  refine fun a ha => ⟨a.word_suffix.isInfix.trans ha, ?_⟩
  rintro _ ⟨⟩
  exact ⟨a.word_isInfix.trans ha, fun c => Arguments.not_isBlank_of_mem_word⟩

lemma text : From s text fun t => t <:+: s := by
  refine fun a ha => ⟨a.text_suffix.isInfix.trans ha, ?_⟩
  rintro _ ⟨⟩
  unfold Arguments.text
  split
  · rename_i c t _ hrest
    rw [hrest] at ha
    exact (List.takeWhile_prefix _).isInfix.trans ((List.suffix_cons c t).isInfix.trans ha)
  · exact List.nil_infix

lemma intWith (c : Command) (valid : Int → Bool) : From s (intWith c valid) s.Holds := by
  refine int.bind fun n hn => ?_
  split
  · exact pure hn
  · exact throw _

lemma someWord (c : Command) : From s (someWord c) fun w => w <:+: s ∧ w.IsWord := by
  refine word.bind fun w hw => ?_
  split
  · exact throw _
  · rename_i hne
    exact pure ⟨hw.1, hne, hw.2⟩

lemma checkBoxes (n : Nat) :
    From s (checkBoxes n) fun bs => ∀ b ∈ bs, s.Holds b.y ∧ s.Holds b.id := by
  induction n with
  | zero => exact pure (by simp)
  | succ n ih =>
    have hbox : From s checkBox fun b => s.Holds b.y ∧ s.Holds b.id :=
      int.bind fun y hy => int.bind fun id hid => pure ⟨hy, hid⟩
    exact hbox.bind fun b hb => ih.bind fun bs hbs => pure (List.forall_mem_cons.mpr ⟨hb, hbs⟩)

lemma boxFrame :
    From s boxFrame fun f => s.Holds f.y ∧ s.Holds f.width ∧ s.Holds f.height :=
  int.bind fun _ hy => int.bind fun _ hheight => int.bind fun _ hwidth =>
    pure ⟨hy, hwidth, hheight⟩

end Take.From

/-! ### Instructions -/

lemma Text.shift_lt_length {t rest : Text} {shift : Nat} {color : Int}
    (h : splitAtColor? t = some (shift, color, rest)) : shift < t.length := by
  induction t generalizing shift with
  | nil => cases h
  | cons c t ih =>
    unfold splitAtColor? at h
    split at h
    · cases h
      exact Nat.succ_pos _
    · obtain ⟨⟨shift', color', rest'⟩, hsplit, heq⟩ := Option.map_eq_some_iff.mp h
      cases heq
      exact Nat.succ_lt_succ (ih hsplit)

/-- A drawing stands where its command says, or as far to the right as its text is long. -/
lemma Command.drawing_reaches {c : Command} {s t : Text} {x y : Int} {i : Instruction}
    (hx : s.Holds x) (hy : s.Holds y) (ht : t <:+: s) (h : c.drawing x y t = .ok i) :
    ∀ n ∈ i.numbers, s.Reaches n := by
  rcases drawing_eq_ok h with ⟨shift, color, rest, hsplit, rfl⟩ | hsprite | ⟨-, -, -, rfl⟩
  · have hspec := Text.splitAtColor?_spec t
    rw [hsplit] at hspec
    have hshift : shift ≤ max s.length pressAnyKeyActor.toNat :=
      (Text.shift_lt_length hsplit).le.trans (ht.length_le.trans (Nat.le_max_left _ _))
    have hcolor : s.Reaches color :=
      s.reaches_of_le hspec.1.1 (hspec.1.2.trans (by decide))
    simp [Instruction.numbers, hx.reaches_add hshift, hy.reaches, hcolor]
  · obtain ⟨actor, frame, hactor, hframe, rfl⟩ := sprite_eq_ok hsprite
    have hpiece (a b : Nat) : (t.drop a).take b <:+: s :=
      ((List.take_prefix _ _).isInfix.trans (List.drop_suffix _ _).isInfix).trans ht
    have hactor := (Text.holds_of_leadingInt hactor).mono (hpiece 1 3)
    have hframe := (Text.holds_of_leadingInt hframe).mono (hpiece 4 2)
    have hfixed {d : Nat} (hd : d ≤ pressAnyKeyActor.toNat) :
        d ≤ max s.length pressAnyKeyActor.toNat := hd.trans (Nat.le_max_right _ _)
    have hright : s.Reaches (x + 2) := hx.reaches_add (hfixed (d := 2) (by decide))
    have hdown : s.Reaches (y + 1) := hy.reaches_add (hfixed (d := 1) (by decide))
    simp [Instruction.numbers, hright, hdown, hactor.reaches, hframe.reaches]
  · simp [Instruction.numbers, hx.reaches, hy.reaches]

/-- What a one-line command can make of arguments that stand in a text. Its numbers and names stand
there as well; what it draws comes from a part of the text. -/
inductive OneLiner.Makes (c : Command) (s : Text) : OneLiner → Instruction → Prop
  | fadeIn : Makes c s .fadeIn .fadeIn
  | fadeOut : Makes c s .fadeOut .fadeOut
  | delay {n : Int} (holds : s.Holds n) : Makes c s .delay (.delay n)
  | talk {n : Int} (holds : s.Holds n) : Makes c s .talk (.talk n)
  | stopTalking : Makes c s .stopTalking .stopTalking
  | disableMenu : Makes c s .disableMenu .disableMenu
  | keyBindings : Makes c s .keyBindings .keyBindings
  | saveSlots {n : Int} (holds : s.Holds n) : Makes c s .saveSlots (.saveSlots n)
  | pressAnyKey : Makes c s .pressAnyKey (.sprite 0 0 pressAnyKeyActor 0)
  | picture {name : Text} (part : name <:+: s) (word : name.IsWord) :
      Makes c s .picture (.picture name)
  | selectionMark {y : Int} (holds : s.Holds y) : Makes c s .selectionMark (.selectionMark y)
  | text {x y : Int} {t : Text} {i : Instruction} (right : s.Holds x) (down : s.Holds y)
      (part : t <:+: s) (drawn : c.drawing x y t = .ok i) : Makes c s .text i
  | palette {name : Text} (part : name <:+: s) (word : name.IsWord) :
      Makes c s .palette (.palette name)
  | waitForInput : Makes c s .waitForInput .waitForInput
  | offsetText : Makes c s .offsetText .offsetText
  | demoAfterTimeout : Makes c s .demoAfterTimeout .demoAfterTimeout
  | checkBoxes {x : Int} {boxes : List CheckBox} (holds : s.Holds x)
      (each : ∀ b ∈ boxes, s.Holds b.y ∧ s.Holds b.id) :
      Makes c s .checkBoxes (.checkBoxes x boxes)

/-- **One-line commands** take all they need from their arguments. -/
lemma OneLiner.instruction_from (s : Text) (c : Command) (o : OneLiner) :
    (o.instruction c).From s (o.Makes c s) := by
  cases o with
  | fadeIn => exact .pure .fadeIn
  | fadeOut => exact .pure .fadeOut
  | delay => exact (Take.From.intWith c _).bind fun n hn => .pure (.delay hn)
  | talk => exact (Take.From.intWith c _).bind fun n hn => .pure (.talk hn)
  | stopTalking => exact .pure .stopTalking
  | disableMenu => exact .pure .disableMenu
  | keyBindings => exact .pure .keyBindings
  | saveSlots => exact (Take.From.intWith c _).bind fun n hn => .pure (.saveSlots hn)
  | pressAnyKey => exact .pure .pressAnyKey
  | picture => exact (Take.From.someWord c).bind fun w hw => .pure (.picture hw.1 hw.2)
  | selectionMark => exact Take.From.int.bind fun y hy => .pure (.selectionMark hy)
  | text =>
    exact Take.From.int.bind fun x hx => Take.From.int.bind fun y hy =>
      Take.From.text.bind fun t ht => .lift fun i hi => .text hx hy ht hi
  | palette => exact (Take.From.someWord c).bind fun w hw => .pure (.palette hw.1 hw.2)
  | waitForInput => exact .pure .waitForInput
  | offsetText => exact .pure .offsetText
  | demoAfterTimeout => exact .pure .demoAfterTimeout
  | checkBoxes =>
    exact Take.From.int.bind fun x hx => Take.From.int.bind fun count _ =>
      (Take.From.checkBoxes _).bind fun bs hbs => .pure (.checkBoxes hx hbs)

lemma OneLiner.Makes.reaches {c : Command} {s : Text} {o : OneLiner} {i : Instruction}
    (h : o.Makes c s i) : ∀ n ∈ i.numbers, s.Reaches n := by
  cases h with
  | delay holds | talk holds | saveSlots holds | selectionMark holds =>
    exact List.forall_mem_singleton.mpr holds.reaches
  | text right down part drawn => exact Command.drawing_reaches right down part drawn
  | checkBoxes holds each =>
    refine List.forall_mem_cons.mpr ⟨holds.reaches, fun n hn => ?_⟩
    obtain ⟨b, hb, hn⟩ := List.mem_flatMap.mp hn
    obtain ⟨hy, hid⟩ := each b hb
    rcases List.mem_cons.mp hn with rfl | hn
    · exact hy.reaches
    · rw [List.mem_singleton.mp hn]
      exact hid.reaches
  | pressAnyKey =>
    have hzero := (s.holds_zero).reaches
    have hactor := s.reaches_of_le (n := pressAnyKeyActor) (by decide) le_rfl
    simp [Instruction.numbers, hzero, hactor]
  | _ => simp [Instruction.numbers]

/-- **A command with an instruction** is a one-line command, and makes the instruction of its
arguments. -/
lemma Command.makes_of_instruction? {c : Command} {s : Text} {i : Instruction}
    (hc : c.arguments <:+: s) (h : c.instruction? = .ok (some i)) :
    ∃ o, c.keyword? = some (.oneLiner o) ∧ o.Makes c s i := by
  obtain ⟨o, rest, hk, hrun⟩ := oneLiner_of_instruction? h
  exact ⟨o, hk, (OneLiner.instruction_from s c o c.unread hc).2 i (by rw [hrun])⟩

lemma Command.reaches_of_instruction? {c : Command} {s : Text} {i : Instruction}
    (hc : c.arguments <:+: s) (h : c.instruction? = .ok (some i)) :
    ∀ n ∈ i.numbers, s.Reaches n := by
  obtain ⟨o, -, hmakes⟩ := makes_of_instruction? hc h
  exact hmakes.reaches

/-! ### Scripts -/

namespace Action

lemma numbersOfAll_append (s t : Script) :
    numbersOfAll (s ++ t) = numbersOfAll s ++ numbersOfAll t := by
  induction s with
  | nil => rfl
  | cons a s ih => rw [List.cons_append, numbersOfAll, ih, numbersOfAll, List.append_assoc]

@[simp] lemma numbersOfAll_singleton (a : Action) : numbersOfAll [a] = a.numbers :=
  List.append_nil _

lemma numbersOfPages_eq (ps : List Script) : numbersOfPages ps = ps.flatMap numbersOfAll := by
  induction ps with
  | nil => rfl
  | cons page ps ih => rw [numbersOfPages, ih, List.flatMap_cons]

lemma numbers_ofPagesAndLast (before : List Script) (last : Script) :
    (ofPagesAndLast before last).numbers = (before ++ [last]).flatMap numbersOfAll := by
  cases before with
  | nil => simp [ofPagesAndLast, numbers, numbersOfPages]
  | cons first others => simp [ofPagesAndLast, numbers, numbersOfPages_eq]

end Action

namespace Body

def Inside.numbers : Inside → List Int
  | .nothing => []
  | .box frame _ => [frame.y, frame.width, frame.height]
  | .pages p => (p.closed ++ [p.current]).flatMap Action.numbersOfAll

/-- The numbers that a body has so far, those of an open construct at the end. -/
def numbers (b : Body) : List Int := Action.numbersOfAll b.actions ++ b.inside.numbers

lemma numbers_add (actions new : Script) :
    (add actions new).numbers = Action.numbersOfAll actions ++ Action.numbersOfAll new := by
  simp [add, numbers, Inside.numbers, Action.numbersOfAll_append]

/-- A box that becomes an action keeps its numbers. -/
lemma Outside.numbers_eq {c : Command} {b : Body} {actions : Script} {log : Log}
    (h : Outside c b actions log) : Action.numbersOfAll actions = b.numbers := by
  cases h with
  | nothing => exact (List.append_nil _).symm
  | box actions frame lines =>
    rw [Action.numbersOfAll_append, Action.numbersOfAll_singleton]
    rfl

/-- **One command** adds only numbers that are in its arguments, or close to one of them. -/
lemma Step.reaches {s : Text} {c : Command} {b b' : Body} {log : Log} (h : Step c b b' log)
    (hc : c.arguments <:+: s) (hb : ∀ n ∈ b.numbers, s.Reaches n) :
    ∀ n ∈ b'.numbers, s.Reaches n := by
  cases h with
  | boxText | boxBlank | ignoredOnPage => exact hb
  | pagesEnd =>
    rwa [numbers_add, Action.numbersOfAll_singleton, Action.numbers_ofPagesAndLast]
  | page =>
    simpa [numbers, Inside.numbers, Action.numbersOfAll] using hb
  | onPage hi =>
    have hnew := Command.reaches_of_instruction? hc hi
    simp only [numbers, Inside.numbers, List.flatMap_append, List.flatMap_singleton,
      Action.numbersOfAll_append, Action.numbersOfAll_singleton, List.forall_mem_append] at hb ⊢
    exact ⟨hb.1, hb.2.1, hb.2.2, hnew⟩
  | pages hout =>
    rw [← hout.numbers_eq] at hb
    simpa [numbers, Inside.numbers, Pages.empty, Action.numbersOfAll] using hb
  | @box _ _ _ frame hout _ hframe =>
    rw [← hout.numbers_eq] at hb
    obtain ⟨hy, hwidth, hheight⟩ := (Take.From.boxFrame c.unread hc).2 frame hframe
    refine List.forall_mem_append.mpr ⟨hb, ?_⟩
    simp [Inside.numbers, hy.reaches, hwidth.reaches, hheight.reaches]
  | @menu _ _ _ slot hout _ hslot =>
    rw [← hout.numbers_eq] at hb
    have hnew : s.Reaches slot := ((Take.From.int c.unread hc).2 slot hslot).reaches
    rw [numbers_add]
    refine List.forall_mem_append.mpr ⟨hb, ?_⟩
    simp [menuActions, Action.numbersOfAll, Action.numbers, Instruction.numbers, hnew]
  | oneLine hout hi =>
    rw [← hout.numbers_eq] at hb
    rw [numbers_add, Action.numbersOfAll_singleton]
    exact List.forall_mem_append.mpr ⟨hb, Command.reaches_of_instruction? hc hi⟩
  | ignored hout =>
    rw [← hout.numbers_eq] at hb
    rwa [numbers_add, Action.numbersOfAll, List.append_nil]

/-- Whatever a body makes of a command, its numbers come from the text. -/
lemma feed_reaches {s : Text} {c : Command} {b : Body} (hc : c.arguments <:+: s)
    (hb : ∀ n ∈ b.numbers, s.Reaches n) :
    (b.feed c).1.Keeps (fun b' => ∀ n ∈ b'.numbers, s.Reaches n)
      fun t => ∀ n ∈ Action.numbersOfAll t, s.Reaches n := by
  rcases hfeed : b.feed c with ⟨b' | t | t | e, log⟩
  · exact (step_of_feed hfeed).reaches hc hb
  · obtain ⟨-, hout⟩ := ends_of_feed hfeed
    intro n hn
    rw [hout.numbers_eq] at hn
    exact hb n hn
  · exact absurd hfeed (feed_ne_leave b c t log)
  · trivial

end Body

/-! ### Loading -/

namespace Loading

/-- The scripts so far have the one property, and what is there of the next script has the other. -/
structure Maintains (P : Body → Prop) (Q : Script → Prop) (l : Loading) : Prop where
  catalog : ∀ e ∈ l.catalog.entries, Q e.2
  inside : ∀ name b, l.stage = .inside name b → P b

/-- The command that a loading finds on a line, on that of a script's name after the name. -/
inductive Finds (l : Loading) (t : Text) (c : Command) : Prop
  | inside {name : Text} {b : Body} (stage : l.stage = .inside name b)
      (found : Command.ofLine? l.line t = some c)
  | between (stage : l.stage = .between) (named : Text.word (Text.dropBlanks t) ≠ [])
      (found : Command.ofLine? l.line (Text.afterWord (Text.dropBlanks t)) = some c)

variable {P : Body → Prop} {Q : Script → Prop} {l : Loading} {s t : Text}

/-- **What is found** is said in the body of a script. -/
lemma Finds.saidIn {before after : List Text} {c : Command}
    (hs : Text.lines s = before ++ t :: after) (h : (start.run before).Finds t c) :
    c.SaidIn s := by
  cases h with
  | inside stage found =>
    obtain ⟨said, hplace, -⟩ := inBody_of_inside hs stage
    exact ⟨_, said, t, number_bounds hs, hplace, line_run_start before ▸ found⟩
  | between stage named found =>
    exact ⟨_, [], _, number_bounds hs, inBody_of_between hs stage named,
      line_run_start before ▸ found⟩

lemma maintains_start : start.Maintains P Q :=
  ⟨by simp [start, Catalog.empty], fun _ _ h => by cases h⟩

lemma Maintains.bodyLine (h : l.Maintains P Q) {b : Body} (name : Text) (hb : P b)
    (hfeed : ∀ c, Command.ofLine? l.line t = some c → (b.feed c).1.Keeps P Q) :
    (l.bodyLine name b t).Maintains P Q := by
  unfold Loading.bodyLine
  rcases hc : Command.ofLine? l.line t with _ | c
  · refine ⟨h.catalog, fun other b' heq => ?_⟩
    cases heq
    exact hb
  · have hkeeps := hfeed c hc
    rcases hr : b.feed c with ⟨b' | u | u | e, log⟩ <;> rw [hr] at hkeeps <;> simp only [hr]
    · refine ⟨h.catalog, fun other b'' heq => ?_⟩
      cases heq
      exact hkeeps
    · exact ⟨Catalog.forall_mem_insert h.catalog hkeeps, fun _ _ heq => by cases heq⟩
    · exact ⟨Catalog.forall_mem_insert h.catalog hkeeps, fun _ _ heq => by cases heq⟩
    · exact ⟨h.catalog, fun _ _ heq => by cases heq⟩

/-- **One line** keeps what its command keeps. -/
lemma Maintains.step (h : l.Maintains P Q) (hempty : P Body.empty)
    (hfeed : ∀ b c, l.Finds t c → P b → (b.feed c).1.Keeps P Q) : (l.step t).Maintains P Q := by
  unfold Loading.step
  split
  · rename_i f hf
    exact ⟨h.catalog, fun _ _ heq => by rw [hf] at heq; cases heq⟩
  · rename_i name b hstage
    have hb : P b := h.inside name b hstage
    exact h.bodyLine name hb fun c hc => hfeed b c (.inside hstage hc) hb
  · rename_i hstage
    dsimp only
    split
    · exact ⟨h.catalog, fun _ _ heq => by cases heq⟩
    · rename_i hword
      exact h.bodyLine _ hempty fun c hc => hfeed _ c (.between hstage hword hc) hempty

end Loading

/-- **What every command keeps** that is said in the text, every script that is loaded has. -/
theorem Catalog.forall_mem_of_load {P : Body → Prop} {Q : Script → Prop} {s : Text} {k : Catalog}
    (h : load s = .ok k) (hempty : P Body.empty)
    (hfeed : ∀ b c, Command.SaidIn s c → P b → (b.feed c).1.Keeps P Q) :
    ∀ e ∈ k.entries, Q e.2 := by
  have hrun (ts : List Text) :
      ∀ after, Text.lines s = ts ++ after → (Loading.start.run ts).Maintains P Q := by
    induction ts using List.reverseRecOn with
    | nil => exact fun _ _ => Loading.maintains_start
    | append_singleton ts t ih =>
      intro after hs
      rw [List.append_assoc, List.singleton_append] at hs
      rw [Loading.run_append]
      exact (ih _ hs).step hempty fun b c hfound hb => hfeed b c (hfound.saidIn hs) hb
  obtain ⟨-, rfl⟩ := Loading.stage_of_result_ok h
  exact (hrun _ [] (List.append_nil _).symm).catalog

/-- **The numbers of what is loaded** come from the text. -/
theorem Catalog.reaches_of_load {s : Text} {k : Catalog} (h : load s = .ok k) :
    ∀ e ∈ k.entries, ∀ n ∈ Action.numbersOfAll e.2, s.Reaches n :=
  forall_mem_of_load h (P := fun b => ∀ n ∈ b.numbers, s.Reaches n) (fun _ hn => by cases hn)
    fun _ _ hc => Body.feed_reaches hc.arguments_isInfix

end Cutscene
