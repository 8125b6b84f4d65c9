import Cutscene.Proofs.Soundness

/-!
What can go wrong with a command.

Each kind of error can only be about some commands, and some commands are in their place only inside
a block of pages, others only outside. Besides such errors a command can fail for one more reason: a
number in its arguments has too many digits to be read.
-/

namespace Cutscene

/-- The commands that an error of some kind can be about, depending on whether a block of pages is
open where they stand. -/
inductive ErrorKind.Concerns (pagesOpen : Prop) : ErrorKind → Keyword → Prop
  | badArgument {o : OneLiner} (h : o ∈ [.delay, .talk, .saveSlots, .picture, .palette]) :
      Concerns pagesOpen .badArgument (.oneLiner o)
  | corruptText {k : Keyword} (h : k ∈ [.oneLiner .text, .boxText]) :
      Concerns pagesOpen .corruptText k
  | misplaced {k : Keyword} (h : k ∈ [.boxText, .boxBlank]) : Concerns pagesOpen .misplaced k
  | outside {k : Keyword} (closed : ¬ pagesOpen) (h : k ∈ [.page, .pagesEnd]) :
      Concerns pagesOpen .misplaced k
  | inside {k : Keyword} (isOpen : pagesOpen) (h : k ∈ [.box, .menu, .pages, .scriptEnd]) :
      Concerns pagesOpen .misplaced k

/-- A run of digits in the text is too long to be read. -/
def Fault.TooLongIn (t : Text) (f : Fault) : Prop :=
  ∃ d, d <:+: t ∧ (∀ c ∈ d, c.isDigit = true) ∧ digitLimit < d.length ∧
    f = .numeralTooLong d.length

/-- The fault is an error about the command, of a kind that concerns it, or a number in the
command's arguments is too long. -/
def Fault.CausedBy (pagesOpen : Prop) (c : Command) (f : Fault) : Prop :=
  (∃ cause k, c.keyword? = some k ∧ f = c.fault cause ∧ cause.kind.Concerns pagesOpen k) ∨
    f.TooLongIn c.arguments

lemma Fault.TooLongIn.mono {s t : Text} {f : Fault} (h : f.TooLongIn s) (hs : s <:+: t) :
    f.TooLongIn t := by
  obtain ⟨d, hd, h⟩ := h
  exact ⟨d, hd.trans hs, h⟩

/-! ### Numerals -/

lemma Numeral.digits_isInfix {t rest : Text} {n : Numeral} (h : scan? t = some (n, rest)) :
    n.digits <:+: t := by
  unfold scan? at h
  dsimp only at h
  split at h
  · cases h
  · cases h
    exact (List.takeWhile_prefix _).isInfix.trans (sign_suffix t).isInfix

lemma Numeral.tooLongIn_of_read {t rest : Text} {n : Numeral} {e : Fault}
    (h : scan? t = some (n, rest)) (he : n.read = .error e) : e.TooLongIn t := by
  unfold read at he
  split at he
  · rename_i hlong
    cases he
    exact ⟨n.digits, digits_isInfix h, (length_of_scan? h).1, of_decide_eq_true hlong, rfl⟩
  · cases he

lemma Text.tooLongIn_of_leadingInt {t : Text} {e : Fault} (h : leadingInt t = .error e) :
    e.TooLongIn t := by
  unfold leadingInt at h
  split at h
  · cases h
  · rename_i n hn
    obtain ⟨⟨n', rest⟩, hscan, rfl⟩ := Option.map_eq_some_iff.mp hn
    rcases hread : n'.read with e' | v <;> rw [hread] at h
    · cases h
      exact (Numeral.tooLongIn_of_read hscan hread).mono (List.dropWhile_suffix _).isInfix
    · cases h

/-! ### Reading arguments -/

/-- The computation fails with such faults only, apart from numbers that are too long, and what it
leaves of the arguments was there before. -/
def Take.Raises {α : Type} (t : Take α) (P : Fault → Prop) : Prop :=
  ∀ a, (t.runOn a).2.rest <:+ a.rest ∧
    ∀ e, (t.runOn a).1 = .error e → P e ∨ e.TooLongIn a.rest

namespace Take.Raises

variable {α β : Type} {P : Fault → Prop}

lemma pure (v : α) : Raises (Pure.pure v) P := fun a => ⟨List.suffix_refl _, fun e h => by cases h⟩

lemma throw {e : Fault} (h : P e) : Raises (α := α) (throw e) P :=
  fun a => ⟨List.suffix_refl _, fun e' he => by cases he; exact .inl h⟩

lemma bind {t : Take α} {f : α → Take β} (ht : t.Raises P) (hf : ∀ v, (f v).Raises P) :
    (t >>= f).Raises P := by
  intro a
  obtain ⟨hsuffix, herror⟩ := ht a
  rw [runOn_bind]
  rcases hrun : t.runOn a with ⟨e | v, b⟩ <;> rw [hrun] at hsuffix herror
  · exact ⟨hsuffix, fun e' he => herror e' (congrArg Except.error (Except.error.inj he))⟩
  · obtain ⟨hsuffix', herror'⟩ := hf v b
    refine ⟨hsuffix'.trans hsuffix, fun e he => ?_⟩
    exact (herror' e he).imp_right fun hlong => hlong.mono hsuffix.isInfix

lemma int : Raises int P := by
  intro a
  refine ⟨a.int_suffix, fun e he => .inr ?_⟩
  rw [runOn_int] at he
  unfold Arguments.int at he
  split at he
  · cases he
  · split at he
    · cases he
    · rename_i n rest hscan
      exact (Numeral.tooLongIn_of_read hscan he).mono (List.dropWhile_suffix _).isInfix

lemma word : Raises word P := fun a => ⟨a.word_suffix, fun e h => by cases h⟩

/-- A text is read, and what is made of it fails with such faults only. -/
lemma text_bind {f : Text → Except Fault α}
    (hf : ∀ t e, f t = .error e → P e ∨ e.TooLongIn t) :
    Raises (text >>= fun t => liftM (f t)) P := by
  intro a
  rw [runOn_bind, runOn_text]
  simp only [runOn_lift]
  refine ⟨a.text_suffix, fun e he => (hf _ e he).imp_right fun hlong => hlong.mono ?_⟩
  unfold Arguments.text
  split
  · rename_i c t _ hrest
    rw [hrest]
    exact (List.takeWhile_prefix _).isInfix.trans (List.suffix_cons c t).isInfix
  · exact List.nil_infix

lemma intWith {c : Command} {valid : Int → Bool} (h : P (c.fault .badArgument)) :
    Raises (intWith c valid) P := by
  refine int.bind fun n => ?_
  split
  · exact pure n
  · exact throw h

lemma someWord {c : Command} (h : P (c.fault .badArgument)) : Raises (someWord c) P := by
  refine word.bind fun w => ?_
  split
  · exact throw h
  · exact pure _

lemma checkBoxes (n : Nat) : Raises (checkBoxes n) P := by
  induction n with
  | zero => exact pure []
  | succ n ih =>
    have hbox : Raises checkBox P := int.bind fun y => int.bind fun id => pure (CheckBox.mk y id)
    exact hbox.bind fun b => ih.bind fun bs => pure (b :: bs)

lemma boxFrame : Raises boxFrame P :=
  int.bind fun y => int.bind fun height => int.bind fun width => pure (BoxFrame.mk y width height)

end Take.Raises

/-! ### Instructions -/

lemma Command.sprite_fault {c : Command} {x y : Int} {t : Text} {e : Fault}
    (h : c.sprite x y t = .error e) :
    (∃ cause : Cause, e = c.fault cause ∧ cause.kind = .corruptText) ∨ e.TooLongIn t := by
  have htake (n m : Nat) : (t.drop n).take m <:+: t :=
    (List.take_prefix _ _).isInfix.trans (List.drop_suffix _ _).isInfix
  unfold Command.sprite at h
  split at h
  · cases h
    exact .inl ⟨.shortSprite, rfl, rfl⟩
  · rcases ha : Text.leadingInt ((t.drop 1).take 3) with e' | actor <;> rw [ha] at h
    · cases h
      exact .inr ((Text.tooLongIn_of_leadingInt ha).mono (htake 1 3))
    · rcases hf : Text.leadingInt ((t.drop 4).take 2) with e' | frame <;> rw [hf] at h
      · cases h
        exact .inr ((Text.tooLongIn_of_leadingInt hf).mono (htake 4 2))
      · rcases actor with _ | actor <;> rcases frame with _ | frame <;> cases h
        all_goals exact .inl ⟨.badSprite _, rfl, rfl⟩

lemma Command.drawing_fault {c : Command} {x y : Int} {t : Text} {e : Fault}
    (h : c.drawing x y t = .error e) :
    (∃ cause : Cause, e = c.fault cause ∧ cause.kind = .corruptText) ∨ e.TooLongIn t := by
  unfold Command.drawing at h
  split at h
  · cases h
    exact .inl ⟨.emptyText, rfl, rfl⟩
  · split at h
    · cases h
    · split at h
      · exact Command.sprite_fault h
      · cases h

/-- **One-line commands** fail for their argument, or for their text. -/
lemma OneLiner.instruction_raises (pagesOpen : Prop) (c : Command) (o : OneLiner) :
    (o.instruction c).Raises fun e =>
      ∃ cause : Cause, e = c.fault cause ∧ cause.kind.Concerns pagesOpen (.oneLiner o) := by
  cases o with
  | delay | talk | saveSlots =>
    exact (Take.Raises.intWith ⟨_, rfl, .badArgument (by decide)⟩).bind fun n => .pure _
  | picture | palette =>
    exact (Take.Raises.someWord ⟨_, rfl, .badArgument (by decide)⟩).bind fun w => .pure _
  | selectionMark => exact Take.Raises.int.bind fun y => .pure _
  | text =>
    refine Take.Raises.int.bind fun x => Take.Raises.int.bind fun y => ?_
    refine Take.Raises.text_bind fun t e h => ?_
    refine (Command.drawing_fault h).imp_left fun ⟨cause, he, hkind⟩ => ⟨cause, he, ?_⟩
    rw [hkind]
    exact .corruptText (by decide)
  | checkBoxes =>
    exact Take.Raises.int.bind fun x => Take.Raises.int.bind fun count =>
      (Take.Raises.checkBoxes _).bind fun bs => .pure _
  | _ => exact .pure _

/-- A command that is read as one instruction fails as a one-line command does, or because it is
not one. -/
lemma Command.instruction?_fault (pagesOpen : Prop) {c : Command} {e : Fault}
    (h : c.instruction? = .error e) :
    e.CausedBy pagesOpen c ∨
      ∃ k, c.keyword? = some k ∧ (∀ o, k ≠ .oneLiner o) ∧ e = c.fault .misplaced := by
  rcases hk : c.keyword? with _ | k
  · rw [instruction?_of_meaningless hk] at h
    cases h
  · by_cases hline : ∀ o, k ≠ .oneLiner o
    · rw [instruction?_of_bound hk hline] at h
      cases h
      exact .inr ⟨k, rfl, hline, rfl⟩
    · obtain ⟨o, rfl⟩ := not_forall_not.mp hline
      obtain ⟨-, hfault⟩ := OneLiner.instruction_raises pagesOpen c o c.unread
      rw [instruction?_of_oneLiner hk] at h
      rcases hrun : (o.instruction c).runOn c.unread with ⟨e' | i, b⟩ <;> rw [hrun] at h hfault
      · obtain rfl : e' = e := Except.error.inj h
        exact .inl ((hfault e' rfl).imp_left fun ⟨cause, he, hcause⟩ => ⟨cause, _, hk, he, hcause⟩)
      · cases h

/-! ### Constructs -/

lemma MessageBox.feed_fault {pagesOpen : Prop} {lines : List Text} {c : Command} {e : Fault}
    (h : (feed lines c).1 = .fail e) : e.CausedBy pagesOpen c := by
  unfold feed at h
  split at h
  · rename_i hk
    split at h
    · cases h
      exact .inl ⟨.emptyText, .boxText, hk, rfl, .corruptText (by decide)⟩
    · cases h
  · cases h
  · cases h

lemma Pages.feed_fault {p : OpenPages} {c : Command} {e : Fault}
    (h : (feed p c).1 = .fail e) : e.CausedBy True c := by
  unfold feed at h
  split at h
  · cases h
  · cases h
  · rename_i hend hpage
    rcases hi : c.instruction? with e' | _ | i <;> rw [hi] at h
    · cases h
      rcases Command.instruction?_fault True hi with hfault | ⟨k, hk, hline, he⟩
      · exact hfault
      · refine .inl ⟨_, k, hk, he, ?_⟩
        cases k with
        | oneLiner o => exact absurd rfl (hline o)
        | page => exact absurd hk hpage
        | pagesEnd => exact absurd hk hend
        | boxText | boxBlank => exact .misplaced (by decide)
        | box | menu | pages | scriptEnd => exact .inside trivial (by decide)
    · cases h
    · cases h

namespace Body

/-- A block of pages is open. -/
def InPages (b : Body) : Prop := ∃ p, b.inside = .pages p

@[simp] lemma inPages_pages (actions : Script) (p : OpenPages) : InPages ⟨actions, .pages p⟩ :=
  ⟨p, rfl⟩

@[simp] lemma not_inPages_nothing (actions : Script) : ¬ InPages ⟨actions, .nothing⟩ := by
  rintro ⟨p, h⟩
  cases h

@[simp] lemma not_inPages_box (actions : Script) (frame : BoxFrame) (lines : List Text) :
    ¬ InPages ⟨actions, .box frame lines⟩ := by
  rintro ⟨p, h⟩
  cases h

@[simp] lemma not_inPages_add (actions new : Script) : ¬ (add actions new).InPages :=
  not_inPages_nothing _

lemma feedPlain_fault {actions : Script} {c : Command} {e : Fault}
    (h : (feedPlain actions c).1 = .fail e) : e.CausedBy False c := by
  unfold feedPlain at h
  split at h
  · cases h
  · cases h
  · split at h
    · rename_i e' hint
      cases h
      exact .inr (((Take.Raises.int (P := fun _ => False) c.unread).2 e hint).resolve_left id)
    · cases h
  · split at h
    · rename_i e' hframe
      cases h
      exact .inr (((Take.Raises.boxFrame (P := fun _ => False) c.unread).2 e hframe).resolve_left id)
    · cases h
  · rename_i hend hpages hmenu hbox
    rcases hi : c.instruction? with e' | _ | i <;> rw [hi] at h
    · cases h
      rcases Command.instruction?_fault False hi with hfault | ⟨k, hk, hline, he⟩
      · exact hfault
      · refine .inl ⟨_, k, hk, he, ?_⟩
        cases k with
        | oneLiner o => exact absurd rfl (hline o)
        | scriptEnd => exact absurd hk hend
        | pages => exact absurd hk hpages
        | menu => exact absurd hk hmenu
        | box => exact absurd hk hbox
        | boxText | boxBlank => exact .misplaced (by decide)
        | page | pagesEnd => exact .outside id (by decide)
    · cases h
    · cases h

/-- **A command that stops a body** is one that the fault can be about, where it stands. -/
theorem feed_fault {b : Body} {c : Command} {e : Fault}
    (h : (b.feed c).1 = .fail e) : e.CausedBy b.InPages c := by
  obtain ⟨actions, inside⟩ := b
  cases inside with
  | nothing =>
    rw [eq_false (not_inPages_nothing actions)]
    exact feedPlain_fault h
  | box frame lines =>
    rw [eq_false (not_inPages_box actions frame lines)]
    simp only [feed, feedBox] at h
    rcases hbox : MessageBox.feed lines c with ⟨ls | ls | ls | e', log⟩ <;> rw [hbox] at h
    · cases h
    · cases h
    · exact feedPlain_fault h
    · cases h
      exact MessageBox.feed_fault (congrArg Prod.fst hbox)
  | pages p =>
    rw [eq_true (inPages_pages actions p)]
    simp only [feed, feedPages] at h
    rcases hpages : Pages.feed p c with ⟨q | a | a | e', log⟩ <;> rw [hpages] at h <;> cases h
    exact Pages.feed_fault (congrArg Prod.fst hpages)

end Body

end Cutscene
