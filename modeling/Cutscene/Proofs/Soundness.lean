import Cutscene.Proofs.Instructions
import Cutscene.Proofs.Loading
import Cutscene.Proofs.Numerals
import Cutscene.Proofs.WellFormed

/-!
Whatever is loaded is well formed.

The checks are spread over the reading of arguments, the instructions, the constructs and the
loading. Each of these keeps what it builds well formed; a line without a line break is all that
it needs from outside.
-/

namespace Cutscene

/-! ### Reading arguments -/

lemma Numeral.sign_suffix (t : Text) : (sign t).2 <:+ t := by
  unfold sign
  split
  · exact List.suffix_cons _ _
  · exact List.suffix_cons _ _
  · exact List.suffix_refl t

lemma Numeral.suffix_of_scan? {t rest : Text} {n : Numeral} (h : scan? t = some (n, rest)) :
    rest <:+ t := by
  unfold scan? at h
  dsimp only at h
  split at h
  · cases h
  · cases h
    exact (List.dropWhile_suffix _).trans (sign_suffix t)

namespace Arguments

/-- Reading only moves on: what is left was left before. -/
lemma int_suffix (a : Arguments) : a.int.2.rest <:+ a.rest := by
  have hdrop : Text.dropBlanks a.rest <:+ a.rest := List.dropWhile_suffix _
  unfold int
  split
  · exact List.suffix_refl _
  · split
    · exact hdrop
    · rename_i n rest hscan
      exact (Numeral.suffix_of_scan? hscan).trans hdrop

lemma word_suffix (a : Arguments) : a.word.2.rest <:+ a.rest := by
  have hdrop : Text.dropBlanks a.rest <:+ a.rest := List.dropWhile_suffix _
  unfold word
  split
  · exact List.suffix_refl _
  · exact (List.dropWhile_suffix _).trans hdrop

lemma text_suffix (a : Arguments) : a.text.2.rest <:+ a.rest := by
  unfold text
  split
  · rename_i c t _ hrest
    rw [hrest]
    exact (List.dropWhile_suffix _).trans (List.suffix_cons c t)
  · exact List.suffix_refl _

lemma word_isInfix (a : Arguments) : a.word.1 <:+: a.rest := by
  unfold word
  split
  · exact List.nil_infix
  · exact (List.takeWhile_prefix _).isInfix.trans (List.dropWhile_suffix _).isInfix

lemma not_isBlank_of_mem_word {a : Arguments} {c : Char} (h : c ∈ a.word.1) :
    Text.isBlank c = false := by
  unfold word at h
  split at h
  · cases h
  · exact Text.not_isBlank_of_mem_word h

lemma isLine_text {a : Arguments} (h : '\n' ∉ a.rest) : a.text.1.IsLine := by
  unfold text
  split
  · rename_i c t _ hrest
    rw [hrest] at h
    refine ⟨fun hc => ?_, fun hc => ?_⟩
    · exact h (List.mem_cons_of_mem c ((List.takeWhile_prefix _).subset hc))
    · simpa using List.mem_takeWhile_imp hc
  · exact ⟨by simp, by simp⟩

end Arguments

/-- From arguments without a line break, only values with the property come, and what is left has
no line break either. -/
def Take.Yields {α : Type} (t : Take α) (P : α → Prop) : Prop :=
  ∀ a v b, '\n' ∉ a.rest → t.runOn a = (.ok v, b) → P v ∧ '\n' ∉ b.rest

namespace Take.Yields

variable {α β : Type}

lemma pure {P : α → Prop} {v : α} (h : P v) : Yields (Pure.pure v) P := by
  rintro a _ _ ha ⟨⟩
  exact ⟨h, ha⟩

lemma throw {P : α → Prop} (e : Fault) : Yields (throw e) P := by
  rintro a _ _ ha ⟨⟩

lemma lift {P : α → Prop} {x : Except Fault α} (h : ∀ v, x = .ok v → P v) :
    Yields (liftM x) P := by
  intro a v b ha hv
  rw [runOn_lift] at hv
  cases hv
  exact ⟨h v rfl, ha⟩

lemma bind {t : Take α} {f : α → Take β} {P : α → Prop} {Q : β → Prop} (ht : t.Yields P)
    (hf : ∀ v, P v → (f v).Yields Q) : (t >>= f).Yields Q := by
  intro a w b ha hw
  obtain ⟨v, a', hv, hw⟩ := runOn_bind_eq_ok_iff.mp hw
  obtain ⟨hP, ha'⟩ := ht a v a' ha hv
  exact hf v hP a' w b ha' hw

lemma int : Yields int fun _ => True := by
  intro a v b ha hv
  have hb := a.int_suffix
  rw [← runOn_int, hv] at hb
  exact ⟨trivial, fun hc => ha (hb.subset hc)⟩

lemma word : Yields word fun w => ∀ c ∈ w, Text.isBlank c = false := by
  rintro a _ _ ha ⟨⟩
  exact ⟨fun c hc => Arguments.not_isBlank_of_mem_word hc, fun hc => ha (a.word_suffix.subset hc)⟩

lemma text : Yields text Text.IsLine := by
  rintro a _ _ ha ⟨⟩
  exact ⟨Arguments.isLine_text ha, fun hc => ha (a.text_suffix.subset hc)⟩

lemma intWith (c : Command) (valid : Int → Bool) :
    Yields (intWith c valid) fun n => valid n = true := by
  refine int.bind fun n _ => ?_
  cases h : valid n with
  | false => rw [if_neg (by simp)]; exact throw _
  | true => rw [if_pos rfl]; exact pure h

lemma someWord (c : Command) : Yields (someWord c) Text.IsWord := by
  refine word.bind fun w hw => ?_
  cases w with
  | nil => exact throw _
  | cons x w => exact pure ⟨by simp, hw⟩

lemma checkBoxes (n : Nat) : Yields (checkBoxes n) fun _ => True := by
  induction n with
  | zero => exact pure trivial
  | succ n ih =>
    have hbox : Yields checkBox fun _ => True :=
      int.bind fun y _ => int.bind fun id _ => pure trivial
    exact hbox.bind fun b _ => ih.bind fun bs _ => pure trivial

end Take.Yields

/-! ### Instructions -/

/-- The colour is one of sixteen, what is drawn comes from the text, and if there is no colour then
no character of the text is one. -/
lemma Text.splitAtColor?_spec (t : Text) :
    match Text.splitAtColor? t with
    | some (_, color, rest) => (0 ≤ color ∧ color ≤ 15) ∧ rest <:+ t
    | none => ∀ c ∈ t, ¬(0xF0 ≤ c.toNat ∧ c.toNat ≤ 0xFF) := by
  induction t with
  | nil => simp [Text.splitAtColor?]
  | cons c t ih =>
    unfold Text.splitAtColor?
    by_cases hc : 0xF0 ≤ c.toNat ∧ c.toNat ≤ 0xFF
    · have hcolor : Text.color? c = some ((c.toNat - 0xF0 : Nat) : Int) := if_pos hc
      rw [hcolor]
      exact ⟨by omega, List.suffix_cons c t⟩
    · have hcolor : Text.color? c = none := if_neg hc
      rw [hcolor]
      rcases hsplit : Text.splitAtColor? t with _ | ⟨shift, color, rest⟩ <;> rw [hsplit] at ih
      · intro d hd
        rcases List.mem_cons.mp hd with rfl | hd
        · exact hc
        · exact ih d hd
      · exact ⟨ih.1, ih.2.trans (List.suffix_cons c t)⟩

lemma Text.IsLine.of_suffix {s t : Text} (h : t.IsLine) (hs : s <:+ t) : s.IsLine :=
  ⟨fun hc => h.newline (hs.subset hc), fun hc => h.ret (hs.subset hc)⟩

lemma Command.sprite_fitsPage {c : Command} {x y : Int} {t : Text} {i : Instruction}
    (h : c.sprite x y t = .ok i) : i.FitsPage := by
  obtain ⟨actor, frame, ha, hf, rfl⟩ := sprite_eq_ok h
  -- three characters for the actor and two for the frame
  have hactor := Text.leadingInt_bounds (k := 2) ha (List.length_take_le 3 _)
  have hframe := Text.leadingInt_bounds (k := 1) hf (List.length_take_le 2 _)
  refine ⟨trivial, ?_⟩
  simp only [Instruction.WellFormed]
  omega

lemma Command.drawing_fitsPage {c : Command} {x y : Int} {t : Text} {i : Instruction}
    (ht : t.IsLine) (h : c.drawing x y t = .ok i) : i.FitsPage := by
  have hspec := Text.splitAtColor?_spec t
  rcases drawing_eq_ok h with ⟨shift, color, rest, hsplit, rfl⟩ | hsprite | ⟨hne, hhead, hsplit, rfl⟩
  · rw [hsplit] at hspec
    exact ⟨trivial, hspec.1, ht.of_suffix hspec.2⟩
  · exact Command.sprite_fitsPage hsprite
  · rw [hsplit] at hspec
    exact ⟨trivial, ht, hne, hhead, hspec⟩

/-- **One-line commands** give one-line instructions that are well formed. -/
lemma OneLiner.instruction_yields (c : Command) (o : OneLiner) :
    (o.instruction c).Yields Instruction.FitsPage := by
  cases o with
  | delay | talk | saveSlots =>
    exact (Take.Yields.intWith c _).bind fun n hn =>
      .pure ⟨trivial, by simpa [Instruction.WellFormed] using hn⟩
  | picture | palette => exact (Take.Yields.someWord c).bind fun w hw => .pure ⟨trivial, hw⟩
  | selectionMark => exact Take.Yields.int.bind fun y _ => .pure ⟨trivial, trivial⟩
  | text =>
    exact Take.Yields.int.bind fun x _ => Take.Yields.int.bind fun y _ =>
      Take.Yields.text.bind fun t ht => .lift fun i hi => Command.drawing_fitsPage ht hi
  | checkBoxes =>
    exact Take.Yields.int.bind fun x _ => Take.Yields.int.bind fun count _ =>
      (Take.Yields.checkBoxes _).bind fun bs _ => .pure ⟨trivial, trivial⟩
  | pressAnyKey => exact .pure ⟨trivial, by simp [Instruction.WellFormed, pressAnyKeyActor]⟩
  | _ => exact .pure ⟨trivial, trivial⟩

lemma Command.instruction?_fitsPage {c : Command} {i : Instruction} (hc : '\n' ∉ c.arguments)
    (h : c.instruction? = .ok (some i)) : i.FitsPage := by
  obtain ⟨o, rest, -, hrun⟩ := oneLiner_of_instruction? h
  exact (OneLiner.instruction_yields c o c.unread i rest hc hrun).1

lemma Command.newline_not_mem_arguments {line : Int} {t : Text} {c : Command} (ht : '\n' ∉ t)
    (h : Command.ofLine? line t = some c) : '\n' ∉ c.arguments := by
  unfold Command.ofLine? at h
  split at h
  · cases h
    intro hc
    have hc := (List.dropWhile_suffix _).subset ((List.dropWhile_suffix _).subset
      ((List.dropWhile_suffix _).subset hc))
    exact ht (Text.mem_of_mem_trim hc)
  · cases h

/-! ### Constructs -/

/-- The states and the results of a construct have their properties after one more command. -/
def Reply.Keeps {σ α : Type} (P : σ → Prop) (Q : α → Prop) : Reply σ α → Prop
  | .more s => P s
  | .done a | .leave a => Q a
  | .fail _ => True

lemma Text.IsLine.isBoxLine_trimEnd {t : Text} (h : t.IsLine) : (trimEnd t).IsBoxLine := by
  have hsub {c : Char} (hc : c ∈ trimEnd t) : c ∈ t := mem_of_mem_trimEnd hc
  exact ⟨⟨fun hc => h.newline (hsub hc), fun hc => h.ret (hsub hc)⟩, getLast?_trimEnd t⟩

lemma MessageBox.feed_keeps {lines : List Text} {c : Command} (hc : '\n' ∉ c.arguments)
    (h : ∀ t ∈ lines, t.IsBoxLine) :
    (feed lines c).1.Keeps (fun ls => ∀ t ∈ ls, t.IsBoxLine) (fun ls => ∀ t ∈ ls, t.IsBoxLine) := by
  have hline : c.unread.text.1.IsLine := Arguments.isLine_text hc
  unfold feed
  split
  · split
    · trivial
    · refine List.forall_mem_append.mpr ⟨h, List.forall_mem_singleton.mpr ?_⟩
      exact hline.isBoxLine_trimEnd
  · refine List.forall_mem_append.mpr ⟨h, List.forall_mem_singleton.mpr ?_⟩
    exact ⟨⟨by simp, by simp⟩, by simp⟩
  · exact h

/-- All pages are pages, the open one included. -/
def OpenPages.WellFormed (p : OpenPages) : Prop :=
  ∀ page ∈ p.closed ++ [p.current], Script.IsPage page

lemma Pages.empty_wellFormed : empty.WellFormed := by
  intro page hpage
  rw [List.mem_singleton.mp hpage]
  exact fun a ha => by cases ha

lemma Action.ofPagesAndLast_wellFormed {p : OpenPages} (h : p.WellFormed) :
    (Action.ofPagesAndLast p.closed p.current).WellFormed := by
  obtain ⟨closed, current⟩ := p
  cases closed <;> exact h

lemma Action.not_isMenuHalf_ofPagesAndLast (before : List Script) (last : Script) :
    ¬ (Action.ofPagesAndLast before last).IsMenuHalf := by
  cases before <;> rintro (h | ⟨slot, h⟩) <;> cases h

lemma Pages.feed_keeps {p : OpenPages} {c : Command} (hc : '\n' ∉ c.arguments)
    (h : p.WellFormed) :
    (feed p c).1.Keeps OpenPages.WellFormed fun a => a.WellFormed ∧ ¬ a.IsMenuHalf := by
  unfold feed
  split
  · exact ⟨Action.ofPagesAndLast_wellFormed h, Action.not_isMenuHalf_ofPagesAndLast _ _⟩
  · -- the page that was open is closed, and an empty one is opened
    exact List.forall_mem_append.mpr ⟨h, Pages.empty_wellFormed⟩
  · rcases hi : c.instruction? with e | _ | i
    · trivial
    · exact h
    · obtain ⟨hclosed, hcurrent⟩ := List.forall_mem_append.mp h
      refine List.forall_mem_append.mpr ⟨hclosed, List.forall_mem_singleton.mpr ?_⟩
      refine List.forall_mem_append.mpr ⟨List.forall_mem_singleton.mp hcurrent, ?_⟩
      exact List.forall_mem_singleton.mpr ⟨i, rfl, Command.instruction?_fitsPage hc hi⟩

/-! ### Scripts -/

namespace Script.WellFormed

variable {s t : Script}

lemma nil : WellFormed [] := ⟨.nil, by simp⟩

lemma append (hs : WellFormed s) (ht : WellFormed t) : WellFormed (s ++ t) where
  menus := hs.menus.append ht.menus
  actions a ha := (List.mem_append.mp ha).elim (hs.actions a) (ht.actions a)

lemma singleton {a : Action} (ha : a.WellFormed) (hm : ¬ a.IsMenuHalf) : WellFormed [a] where
  menus := .singleton hm
  actions _ hb := List.mem_singleton.mp hb ▸ ha

lemma menu (slot : Int) : WellFormed (Body.menuActions slot) where
  menus := .menu slot
  actions a ha := by
    rcases List.mem_cons.mp ha with rfl | ha
    · trivial
    · rw [List.mem_singleton.mp ha]
      trivial

lemma box {frame : BoxFrame} {lines : List Text} (h : ∀ t ∈ lines, t.IsBoxLine) :
    WellFormed [.single (frame.withLines lines)] :=
  singleton h (by rintro (heq | ⟨slot, heq⟩) <;> cases heq)

end Script.WellFormed

namespace Body

/-- What is collected in an open construct is well formed. -/
def Inside.WellFormed : Inside → Prop
  | .nothing => True
  | .box _ lines => ∀ t ∈ lines, t.IsBoxLine
  | .pages p => p.WellFormed

/-- The actions so far are well formed, and so is the construct that is open. -/
structure WellFormed (b : Body) : Prop where
  actions : Script.WellFormed b.actions
  inside : b.inside.WellFormed

lemma wellFormed_add {actions new : Script} (h : Script.WellFormed actions)
    (hn : Script.WellFormed new) : (add actions new).WellFormed := ⟨h.append hn, trivial⟩

lemma wellFormed_empty : empty.WellFormed := wellFormed_add .nil .nil

lemma feedPlain_keeps {actions : Script} {c : Command} (hc : '\n' ∉ c.arguments)
    (h : Script.WellFormed actions) :
    (feedPlain actions c).1.Keeps WellFormed Script.WellFormed := by
  unfold feedPlain
  split
  · exact h
  · exact ⟨h, Pages.empty_wellFormed⟩
  · split
    · trivial
    · exact wellFormed_add h (.menu _)
  · split
    · trivial
    · exact ⟨h, by simp [Inside.WellFormed]⟩
  · rcases hi : c.instruction? with e | _ | i
    · trivial
    · exact wellFormed_add h .nil
    · have hfits := Command.instruction?_fitsPage hc hi
      exact wellFormed_add h (.singleton hfits.2 hfits.1.not_isMenuHalf)

lemma feedBox_keeps {actions : Script} {frame : BoxFrame} {lines : List Text} {c : Command}
    (hc : '\n' ∉ c.arguments) (h : Script.WellFormed actions) (hl : ∀ t ∈ lines, t.IsBoxLine) :
    (feedBox actions frame lines c).1.Keeps WellFormed Script.WellFormed := by
  have hbox := MessageBox.feed_keeps hc hl
  unfold feedBox
  rcases hfeed : MessageBox.feed lines c with ⟨ls | ls | ls | e, log⟩ <;> rw [hfeed] at hbox
  · exact ⟨h, hbox⟩
  · exact wellFormed_add h (.box hbox)
  · -- the command that ends the box is read as if the box had not been there
    exact feedPlain_keeps hc (h.append (.box hbox))
  · trivial

lemma feedPages_keeps {actions : Script} {p : OpenPages} {c : Command} (hc : '\n' ∉ c.arguments)
    (h : Script.WellFormed actions) (hp : p.WellFormed) :
    (feedPages actions p c).1.Keeps WellFormed Script.WellFormed := by
  have hpages := Pages.feed_keeps hc hp
  unfold feedPages
  rcases hfeed : Pages.feed p c with ⟨q | a | a | e, log⟩ <;> rw [hfeed] at hpages
  · exact ⟨h, hpages⟩
  · exact wellFormed_add h (.singleton hpages.1 hpages.2)
  · exact wellFormed_add h (.singleton hpages.1 hpages.2)
  · trivial

/-- **One command** leaves a body well formed, or makes a script of it that is. -/
lemma feed_keeps {b : Body} {c : Command} (hc : '\n' ∉ c.arguments) (h : b.WellFormed) :
    (b.feed c).1.Keeps WellFormed Script.WellFormed := by
  obtain ⟨actions, inside⟩ := b
  cases inside with
  | nothing => exact feedPlain_keeps hc h.actions
  | box frame lines => exact feedBox_keeps hc h.actions h.inside
  | pages p => exact feedPages_keeps hc h.actions h.inside

end Body

/-! ### Catalogs -/

lemma Catalog.WellFormed.empty : Catalog.empty.WellFormed :=
  ⟨.nil, by simp [names, Catalog.empty], by simp [Catalog.empty]⟩

/-- What all scripts have, and a new one too, all have after the new one is put in. -/
lemma Catalog.forall_mem_insert {Q : Script → Prop} {k : Catalog} {name : Text} {s : Script}
    (h : ∀ e ∈ k.entries, Q e.2) (hs : Q s) : ∀ e ∈ (k.insert name s).entries, Q e.2 := by
  intro e he
  unfold insert at he
  split at he
  · obtain ⟨old, hold, rfl⟩ := List.mem_map.mp he
    split
    · exact hs
    · exact h old hold
  · rcases List.mem_append.mp he with he | he
    · exact h e he
    · exact List.mem_singleton.mp he ▸ hs

lemma Catalog.WellFormed.insert {k : Catalog} {name : Text} {s : Script} (h : k.WellFormed)
    (hn : name.IsWord) (hs : Script.WellFormed s) : (k.insert name s).WellFormed where
  distinct := by
    rw [names_insert]
    split
    · exact h.distinct
    · rename_i hnew
      exact List.nodup_append.mpr ⟨h.distinct, List.nodup_singleton name, by
        rintro a ha b hb rfl
        exact hnew (List.mem_singleton.mp hb ▸ ha)⟩
  words other ho := by
    rw [names_insert] at ho
    split at ho
    · exact h.words other ho
    · rcases List.mem_append.mp ho with ho | ho
      · exact h.words other ho
      · exact List.mem_singleton.mp ho ▸ hn
  scripts := forall_mem_insert h.scripts hs

namespace Loading

/-- The scripts so far are well formed, and so is the one that is being read. -/
structure WellFormed (l : Loading) : Prop where
  catalog : l.catalog.WellFormed
  inside : ∀ name b, l.stage = .inside name b → name.IsWord ∧ b.WellFormed

lemma WellFormed.goOn {l : Loading} (h : l.WellFormed) {stage : Stage} {log : Log}
    (hs : ∀ name b, stage = .inside name b → name.IsWord ∧ b.WellFormed) :
    (l.goOn stage log).WellFormed := ⟨h.catalog, hs⟩

lemma WellFormed.complete {l : Loading} {name : Text} {s : Script} (h : l.WellFormed)
    (hn : name.IsWord) (hs : Script.WellFormed s) (log : Log) :
    (l.complete name s log).WellFormed :=
  ⟨h.catalog.insert hn hs, fun _ _ heq => by cases heq⟩

lemma WellFormed.bodyLine {l : Loading} {name : Text} {b : Body} {t : Text} (h : l.WellFormed)
    (hn : name.IsWord) (hb : b.WellFormed) (ht : '\n' ∉ t) : (l.bodyLine name b t).WellFormed := by
  unfold Loading.bodyLine
  rcases hc : Command.ofLine? l.line t with _ | c
  · refine h.goOn fun other b' heq => ?_
    cases heq
    exact ⟨hn, hb⟩
  · have hfeed := Body.feed_keeps (Command.newline_not_mem_arguments ht hc) hb
    rcases hr : b.feed c with ⟨b' | s | s | e, log⟩ <;> rw [hr] at hfeed <;> simp only [hr]
    · refine h.goOn fun other b'' heq => ?_
      cases heq
      exact ⟨hn, hfeed⟩
    · exact h.complete hn hfeed log
    · exact h.complete hn hfeed log
    · exact h.goOn fun _ _ heq => by cases heq

/-- **One line** leaves a loading well formed. -/
lemma WellFormed.step {l : Loading} {t : Text} (h : l.WellFormed) (ht : '\n' ∉ t) :
    (l.step t).WellFormed := by
  unfold Loading.step
  split
  · rename_i f hf
    exact h.goOn fun _ _ heq => by rw [hf] at heq; cases heq
  · rename_i name b hstage
    obtain ⟨hn, hb⟩ := h.inside name b hstage
    exact h.bodyLine hn hb ht
  · have hdrop : '\n' ∉ Text.dropBlanks t := fun hc => ht (Text.mem_of_mem_dropBlanks hc)
    dsimp only
    split
    · exact h.goOn fun _ _ heq => by cases heq
    · rename_i hword
      have hn : Text.IsWord _ := ⟨hword, fun c hc => Text.not_isBlank_of_mem_word hc⟩
      refine h.bodyLine hn Body.wellFormed_empty fun hc => ?_
      exact hdrop ((List.dropWhile_suffix _).subset hc)

lemma WellFormed.run {l : Loading} {ts : List Text} (h : l.WellFormed)
    (hts : ∀ t ∈ ts, '\n' ∉ t) : (l.run ts).WellFormed := by
  induction ts generalizing l with
  | nil => exact h
  | cons t ts ih =>
    exact ih (h.step (hts t List.mem_cons_self)) fun u hu => hts u (List.mem_cons_of_mem t hu)

lemma wellFormed_start : start.WellFormed := ⟨.empty, fun _ _ heq => by cases heq⟩

end Loading

/-- **Soundness.** Whatever is loaded keeps the limits of the format. -/
theorem Catalog.wellFormed_of_load {s : Text} {k : Catalog} (h : load s = .ok k) :
    k.WellFormed := by
  obtain ⟨-, rfl⟩ := Loading.stage_of_result_ok h
  exact (Loading.wellFormed_start.run fun t => Text.newline_not_mem_of_mem_lines).catalog

/-- The blank after the text in a box is gone. -/
theorem Catalog.wellFormed_menu_and_box :
    Catalog.WellFormed ⟨[("Intro".toList,
      Body.menuActions 3 ++ [.single (.messageBox 5 20 7 ["a".toList])])]⟩ := by
  have h : load "Intro\n//MENU 3\n//CENTERWINDOW 5 7 20\n//CWTEXT a \r.\n//END".toList =
      .ok ⟨[("Intro".toList,
        Body.menuActions 3 ++ [.single (.messageBox 5 20 7 ["a".toList])])]⟩ := by
    decide +kernel
  exact wellFormed_of_load h

end Cutscene
