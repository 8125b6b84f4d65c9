import Cutscene.Proofs.Conservation
import Cutscene.Proofs.Drawings
import Cutscene.Proofs.Numbers

/-!
Which sprites there can be in a script.

Three characters name the actor of a sprite and two its frame, so both numbers are small. They are
read like all numbers: blanks come first, and the number is over before the first character that is
no digit. Where no sign comes first, the number is not below zero.
-/

namespace Cutscene

/-! ### Every instruction of a script -/

namespace Action

lemma partsOfScript_append (s t : Script) :
    partsOfScript (s ++ t) = partsOfScript s ++ partsOfScript t := by
  induction s with
  | nil => rfl
  | cons a s ih => rw [List.cons_append, partsOfScript, ih, partsOfScript, List.append_assoc]

lemma partsOfPages_eq (ps : List Script) : partsOfPages ps = ps.flatMap partsOfScript := by
  induction ps with
  | nil => rfl
  | cons page ps ih => rw [partsOfPages, ih, List.flatMap_cons]

end Action

namespace Script

variable {P : Instruction → Prop} {s t : Script}

/-- The instructions of a script have the property, on pages as well. -/
def Each (P : Instruction → Prop) (s : Script) : Prop := ∀ i, .single i ∈ s.parts → P i

lemma each_nil : Each P [] := fun _ h => by cases h

lemma each_append_iff : Each P (s ++ t) ↔ Each P s ∧ Each P t := by
  simp only [Each, parts, Action.partsOfScript_append, List.mem_append]
  constructor
  · intro h
    exact ⟨fun i hi => h i (.inl hi), fun i hi => h i (.inr hi)⟩
  · intro h i hi
    exact hi.elim (h.1 i) (h.2 i)

lemma each_singleton_iff {i : Instruction} : Each P [.single i] ↔ P i := by
  simp [Each, parts, Action.partsOfScript, Action.parts]

/-- Pages are no instruction; what counts is what they hold. -/
lemma each_pages_iff {before : List Script} {last : Script} :
    Each P [.ofPagesAndLast before last] ↔ ∀ page ∈ before ++ [last], Each P page := by
  have hparts : ∀ i, .single i ∈ parts [.ofPagesAndLast before last] ↔
      ∃ page ∈ before ++ [last], .single i ∈ parts page := by
    intro i
    cases before with
    | nil => simp [parts, Action.partsOfScript, Action.ofPagesAndLast, Action.parts,
        Action.partsOfPages_eq]
    | cons first others => simp [parts, Action.partsOfScript, Action.ofPagesAndLast, Action.parts,
        Action.partsOfPages_eq]
  simp only [Each, hparts]
  constructor
  · intro h page hpage i hi
    exact h i ⟨page, hpage, hi⟩
  · intro h i hi
    obtain ⟨page, hpage, hi⟩ := hi
    exact h page hpage i hi

end Script

namespace Body

/-- The instructions so far have the property, and so have those of the pages that are open. -/
structure Each (P : Instruction → Prop) (b : Body) : Prop where
  actions : Script.Each P b.actions
  pages : ∀ p, b.inside = .pages p → ∀ page ∈ p.closed ++ [p.current], Script.Each P page

variable {P : Instruction → Prop} {s : Text} {b b' : Body} {c : Command} {log : Log}

lemma each_add {actions new : Script} (h : Script.Each P actions) (hnew : Script.Each P new) :
    (add actions new).Each P :=
  ⟨Script.each_append_iff.mpr ⟨h, hnew⟩, fun _ heq => by cases heq⟩

lemma each_menuActions {slot : Int} (hremember : P (.rememberSelection slot))
    (hfade : P .fadeInBeforeWait) : Script.Each P (menuActions slot) :=
  Script.each_append_iff (s := [.single (.rememberSelection slot)]).mpr
    ⟨Script.each_singleton_iff.mpr hremember, Script.each_singleton_iff.mpr hfade⟩

/-- A box that becomes an action is one more instruction. -/
lemma Outside.each {actions : Script} (h : Outside c b actions log) (hb : b.Each P)
    (hbox : ∀ (frame : BoxFrame) (lines : List Text), P (frame.withLines lines)) :
    Script.Each P actions := by
  cases h with
  | nothing => exact hb.actions
  | box actions frame lines =>
    exact Script.each_append_iff.mpr
      ⟨hb.actions, Script.each_singleton_iff.mpr (hbox frame lines)⟩

/-- **One command** adds its own instruction, if it has one, or boxes and menus. -/
lemma Step.each (h : Step c b b' log) (hb : b.Each P)
    (hbox : ∀ (frame : BoxFrame) (lines : List Text), P (frame.withLines lines))
    (hmenu : ∀ slot, Script.Each P (menuActions slot))
    (hc : ∀ i, c.instruction? = .ok (some i) → P i) : b'.Each P := by
  cases h with
  | boxText | boxBlank => exact ⟨hb.actions, fun _ heq => by cases heq⟩
  | ignoredOnPage => exact hb
  | pagesEnd => exact each_add hb.actions (Script.each_pages_iff.mpr (hb.pages _ rfl))
  | page =>
    refine ⟨hb.actions, ?_⟩
    rintro _ ⟨⟩
    exact List.forall_mem_append.mpr
      ⟨hb.pages _ rfl, List.forall_mem_singleton.mpr Script.each_nil⟩
  | onPage hi =>
    refine ⟨hb.actions, ?_⟩
    rintro _ ⟨⟩
    obtain ⟨hclosed, hcurrent⟩ := List.forall_mem_append.mp (hb.pages _ rfl)
    refine List.forall_mem_append.mpr ⟨hclosed, List.forall_mem_singleton.mpr ?_⟩
    exact Script.each_append_iff.mpr
      ⟨List.forall_mem_singleton.mp hcurrent, Script.each_singleton_iff.mpr (hc _ hi)⟩
  | pages hout =>
    refine ⟨hout.each hb hbox, ?_⟩
    rintro _ ⟨⟩
    exact List.forall_mem_singleton.mpr Script.each_nil
  | box hout => exact ⟨hout.each hb hbox, fun _ heq => by cases heq⟩
  | menu hout => exact each_add (hout.each hb hbox) (hmenu _)
  | oneLine hout hi => exact each_add (hout.each hb hbox) (Script.each_singleton_iff.mpr (hc _ hi))
  | ignored hout => exact each_add (hout.each hb hbox) Script.each_nil

end Body

/-- **What every instruction has** that is said in the text, and boxes and menus too, every
instruction has of every script that is loaded. -/
theorem Catalog.each_of_load {P : Instruction → Prop} {s : Text} {k : Catalog}
    (h : load s = .ok k)
    (hbox : ∀ (frame : BoxFrame) (lines : List Text), P (frame.withLines lines))
    (hmenu : ∀ slot, Script.Each P (Body.menuActions slot))
    (hc : ∀ c i, Command.SaidIn s c → c.instruction? = .ok (some i) → P i) :
    ∀ e ∈ k.entries, Script.Each P e.2 := by
  refine forall_mem_of_load h (P := Body.Each P) ⟨Script.each_nil, fun _ heq => by cases heq⟩ ?_
  intro b c hsaid hb
  rcases hfeed : b.feed c with ⟨b' | t | t | e, log⟩
  · exact (Body.step_of_feed hfeed).each hb hbox hmenu fun i => hc c i hsaid
  · exact (Body.ends_of_feed hfeed).2.each hb hbox
  · exact absurd hfeed (Body.feed_ne_leave b c t log)
  · trivial

/-! ### Fields -/

namespace Text

/-- The digits at the start of a text, after any blanks. -/
def leadingDigits (t : Text) : Text := (dropBlanks t).takeWhile Char.isDigit

/-- A sign is the first character that can be seen. -/
def IsSigned (t : Text) : Prop := (dropBlanks t).head? = some '+' ∨ (dropBlanks t).head? = some '-'

instance (t : Text) : Decidable t.IsSigned := inferInstanceAs (Decidable (_ ∨ _))

/-- The text without the sign that it starts with, if there is one. -/
def afterSign : Text → Text
  | '+' :: t | '-' :: t => t
  | t => t

/-- After any blanks, and a sign or none, comes no digit. -/
def LacksDigits (t : Text) : Prop := (afterSign (dropBlanks t)).takeWhile Char.isDigit = []

instance (t : Text) : Decidable t.LacksDigits := inferInstanceAs (Decidable (_ = _))

/-- There are digits at the start of the text, and they are those of the number. -/
def Spells (t : Text) (n : Int) : Prop :=
  t.leadingDigits ≠ [] ∧ n = Nat.ofDigitChars 10 t.leadingDigits 0

variable {t : Text} {n : Int}

lemma Spells.nonneg (h : t.Spells n) : 0 ≤ n := h.2 ▸ Int.natCast_nonneg _

lemma sign_snd_eq (t : Text) : (Numeral.sign t).2 = afterSign t := by
  unfold Numeral.sign afterSign
  split <;> split <;> simp_all

lemma sign_dropBlanks_of_unsigned (h : ¬ t.IsSigned) :
    Numeral.sign (dropBlanks t) = (false, dropBlanks t) := by
  unfold Numeral.sign
  split
  · rename_i heq
    exact absurd (.inr (by rw [heq]; rfl)) h
  · rename_i heq
    exact absurd (.inl (by rw [heq]; rfl)) h
  · rfl

/-- Without a sign, the numeral is the digits. -/
lemma exists_leads_of_unsigned (h : ¬ t.IsSigned) (hne : t.leadingDigits ≠ []) :
    ∃ rest, Numeral.Leads ⟨false, t.leadingDigits⟩ rest t := by
  have hscan : Numeral.scan? (dropBlanks t) =
      some (⟨false, t.leadingDigits⟩, (dropBlanks t).dropWhile Char.isDigit) := by
    unfold Numeral.scan?
    rw [sign_dropBlanks_of_unsigned h]
    dsimp only
    split
    · rename_i hnil
      exact absurd hnil hne
    · rfl
  exact ⟨_, Numeral.scan?_dropBlanks_eq_some_iff.mp hscan⟩

/-- Without a digit where the digits should be, there is no numeral. -/
lemma LacksDigits.absent (h : t.LacksDigits) : Numeral.Absent t := by
  have hscan : Numeral.scan? (dropBlanks t) = none := by
    unfold Numeral.scan?
    dsimp only
    rw [sign_snd_eq, show (afterSign (dropBlanks t)).takeWhile Char.isDigit = [] from h]
  exact Numeral.scan?_dropBlanks_eq_none_iff.mp hscan

lemma lacksDigits_of_unsigned (h : ¬ t.IsSigned) (hnil : t.leadingDigits = []) :
    t.LacksDigits := by
  rwa [LacksDigits, ← sign_snd_eq, sign_dropBlanks_of_unsigned h]

lemma spells_of_leads {d : Numeral} {rest : Text} (h : ¬ t.IsSigned) (hd : d.Leads rest t) :
    t.Spells d.value := by
  have hne : t.leadingDigits ≠ [] := fun hnil =>
    (lacksDigits_of_unsigned h hnil).absent d rest hd
  obtain ⟨rest', hleads⟩ := exists_leads_of_unsigned h hne
  obtain ⟨rfl, -⟩ := hleads.unique hd
  exact ⟨hne, rfl⟩

lemma leadingDigits_of_digits (hne : t ≠ []) (h : ∀ c ∈ t, c.isDigit = true) :
    ¬ t.IsSigned ∧ t.leadingDigits = t := by
  obtain ⟨c, u, rfl⟩ := List.exists_cons_of_ne_nil hne
  have hdigit : c.isDigit = true := h c List.mem_cons_self
  have hdrop : dropBlanks (c :: u) = c :: u :=
    dropBlanks_cons_of_not_isBlank (not_isBlank_of_isDigit hdigit) u
  refine ⟨?_, ?_⟩
  · rw [IsSigned, hdrop]
    rintro (heq | heq)
    · obtain rfl : c = '+' := Option.some.inj heq
      cases hdigit
    · obtain rfl : c = '-' := Option.some.inj heq
      cases hdigit
  · rw [leadingDigits, hdrop]
    exact List.takeWhile_eq_self_iff.mpr h

/-! ### Where sprites come from -/

/-- In a script of the text, a command asks to press any key. -/
def AsksForKey (s : Text) : Prop :=
  ∃ c : Command, c.SaidIn s ∧ c.token = OneLiner.pressAnyKey.token

/-- In a script of the text, a text command has the sprite. After the mark stand three characters
for the actor and two for the frame; a field without a sign spells its number. -/
inductive HoldsSprite (s : Text) : Int → Int → Int → Int → Prop
  | intro {c : Command} {x y actor frame : Int} {fa ff rest : Text} (said : c.SaidIn s)
      (token : c.token = OneLiner.text.token)
      (placed : c.Places x y (spriteMark :: (fa ++ (ff ++ rest))))
      (announced : AnnouncesSprite (spriteMark :: (fa ++ (ff ++ rest))))
      (three : fa.length = 3) (two : ff.length = 2)
      (isActor : ¬ fa.IsSigned → 0 ≤ actor ∧ fa.Spells actor)
      (isFrame : ¬ ff.IsSigned → 0 ≤ frame ∧ ff.Spells frame) :
      HoldsSprite s (x + 2) (y + 1) actor frame

/-- The mark and the fields stand at the start of the text. -/
lemma AnnouncesSprite.eq_cons (h : t.AnnouncesSprite) :
    t = spriteMark :: (t.actorField ++ (t.frameField ++ t.drop 6)) := by
  obtain ⟨u, rfl⟩ := List.head?_eq_some_iff.mp h.mark
  have hframe : (u.drop 3).take 2 ++ u.drop 5 = u.drop 3 := by
    have hdrop : u.drop 5 = (u.drop 3).drop 2 := by rw [List.drop_drop]
    rw [hdrop, List.take_append_drop]
  change spriteMark :: u = spriteMark :: (u.take 3 ++ ((u.drop 3).take 2 ++ u.drop 5))
  rw [hframe, List.take_append_drop]

lemma length_fields (h : 6 ≤ t.length) : t.actorField.length = 3 ∧ t.frameField.length = 2 := by
  simp only [actorField, frameField, List.length_take, List.length_drop]
  omega

end Text

/-- If the instruction is a sprite, then its actor has three digits at most and its frame two, and
a command of the text asks for it. -/
def Instruction.SpriteFrom (s : Text) : Instruction → Prop
  | .sprite x y actor frame => (actor ≤ 999 ∧ frame ≤ 99) ∧
      ((x = 0 ∧ y = 0 ∧ actor = pressAnyKeyActor ∧ frame = 0 ∧ s.AsksForKey) ∨
        s.HoldsSprite x y actor frame)
  | _ => True

/-- A sprite that is drawn has its numbers from its fields. -/
lemma Command.Draws.spriteFrom {c : Command} {s : Text} {i : Instruction} (hc : c.SaidIn s)
    (htext : c.token = OneLiner.text.token) (h : c.Draws (.ok i)) : i.SpriteFrom s := by
  cases h with
  | @shows x y p _ placed shows =>
    cases shows with
    | bigText | text => trivial
    | sprite announced long isActor isFrame =>
      have hactor := Text.leadingInt_field isActor p.length_actorField
      have hframe := Text.leadingInt_field isFrame p.length_frameField
      obtain ⟨hthree, htwo⟩ := Text.length_fields long
      have hactorLt := (Text.leadingInt_bounds (k := 2) hactor hthree.le).2
      have hframeLt := (Text.leadingInt_bounds (k := 1) hframe htwo.le).2
      have hp := announced.eq_cons
      refine ⟨⟨by omega, by omega⟩, .inr ?_⟩
      refine .intro hc htext (hp ▸ placed) (hp ▸ announced) hthree htwo ?_ ?_
      · intro hsign
        have hspells := Text.spells_of_leads hsign isActor
        exact ⟨hspells.nonneg, hspells⟩
      · intro hsign
        have hspells := Text.spells_of_leads hsign isFrame
        exact ⟨hspells.nonneg, hspells⟩

/-- **A command** with a sprite has it from its text, but for the one that always has the same. -/
lemma Command.spriteFrom_of_instruction? {c : Command} {s : Text} {i : Instruction}
    (hc : c.SaidIn s) (h : c.instruction? = .ok (some i)) : i.SpriteFrom s := by
  obtain ⟨o, hk, hmakes⟩ := makes_of_instruction? hc.arguments_isInfix h
  have htoken : c.token = o.token := keyword?_eq_some_iff.mp hk
  cases hmakes with
  | text =>
    rw [instruction?_of_text htoken] at h
    rcases hrun : ((OneLiner.text.instruction c).runOn (.ofText c.arguments)).1 with e | j <;>
      rw [hrun] at h <;> cases h
    exact (draws_iff.mpr hrun).spriteFrom hc htoken
  | pressAnyKey => exact ⟨by decide, .inl ⟨rfl, rfl, rfl, rfl, c, hc, htoken⟩⟩
  | _ => trivial

lemma Catalog.spriteFrom_of_load {s : Text} {k : Catalog} (h : load s = .ok k) :
    ∀ e ∈ k.entries, Script.Each (Instruction.SpriteFrom s) e.2 :=
  each_of_load h (fun _ _ => trivial) (fun _ => Body.each_menuActions trivial trivial)
    fun _ _ => Command.spriteFrom_of_instruction?

/-! ### Fields that cannot be read -/

/-- The text is too short, or in one of its fields no digit comes after any blanks and a sign or
none. -/
def Text.LacksFields (t : Text) : Prop :=
  t.length < 6 ∨ t.actorField.LacksDigits ∨ t.frameField.LacksDigits

instance (t : Text) : Decidable t.LacksFields := inferInstanceAs (Decidable (_ ∨ _))

lemma Command.exists_shows_corrupt {c : Command} {x y : Int} {p : Text} (h : p.AnnouncesSprite)
    (hp : p.LacksFields) :
    ∃ cause : Cause, cause.kind = .corruptText ∧ c.Shows x y p (.error (c.fault cause)) := by
  obtain hshort | hlong := Nat.lt_or_ge p.length 6
  · exact ⟨_, rfl, .shortSprite h hshort⟩
  · obtain hshort | hactor | hframe := hp
    · exact absurd hlong (Nat.not_le.mpr hshort)
    · exact ⟨_, rfl, .badSprite h hlong (.inl hactor.absent)⟩
    · exact ⟨_, rfl, .badSprite h hlong (.inr hframe.absent)⟩

/-- Wherever a one-line command with a fault stands in a body, it stops the body. -/
lemma Body.feed_of_oneLiner {b : Body} {c : Command} {o : OneLiner} {e : Fault}
    (hk : c.keyword? = some (.oneLiner o)) (h : c.instruction? = .error e) :
    (b.feed c).1 = .fail e := by
  have hplain (actions : Script) : (feedPlain actions c).1 = .fail e := by
    simp only [feedPlain, hk, h]
  obtain ⟨actions, inside⟩ := b
  cases inside with
  | nothing => exact hplain actions
  | box frame lines =>
    simp only [feed, feedBox, MessageBox.feed, hk]
    exact hplain _
  | pages p => simp only [feed, feedPages, Pages.feed, hk, h]

/-- A command that stops the body that it stands in stops the loading. -/
lemma Catalog.load_of_fail {s t name : Text} {before after : List Text} {b : Body} {c : Command}
    {e : Fault} (hlines : Text.lines s = before ++ t :: after)
    (hstage : (Loading.start.run before).stage = .inside name b)
    (hc : Command.ofLine? (before.length + 1) t = some c) (h : (b.feed c).1 = .fail e) :
    load s = .error e := by
  have hline : (Loading.start.run before).line = before.length + 1 := by
    rw [Loading.line_run]
    exact Int.add_comm 1 _
  have hstopped : (Loading.start.run (before ++ [t])).stage = .stopped e := by
    rw [Loading.run_append, Loading.run_cons, Loading.run_nil, Loading.step, hstage]
    simp only [Loading.bodyLine, hline, hc]
    rcases hfeed : b.feed c with ⟨b' | u | u | e', log⟩ <;> rw [hfeed] at h <;> cases h
    rfl
  rw [load, Loading.ofSource, hlines, List.append_cons, Loading.run_append]
  exact Loading.result_of_stopped (Loading.stage_run_of_stopped hstopped after)

/-- **A sprite without its fields** is an error, and the file does not load. -/
lemma Command.corrupt_of_lacksFields {c : Command} {x y : Int} {p : Text}
    (htext : c.token = OneLiner.text.token) (hplaced : c.Places x y p) (h : p.AnnouncesSprite)
    (hp : p.LacksFields) :
    ∃ cause : Cause, cause.kind = .corruptText ∧ c.instruction? = .error (c.fault cause) ∧
      ∀ b : Body, (b.feed c).1 = .fail (c.fault cause) := by
  have hkeyword : c.keyword? = some (.oneLiner .text) := keyword?_eq_some_iff.mpr htext
  obtain ⟨cause, hkind, hshows⟩ := exists_shows_corrupt (c := c) (x := x) (y := y) h hp
  have hinstruction : c.instruction? = .error (c.fault cause) := by
    rw [instruction?_of_text htext, run_of_draws (.shows hplaced hshows)]
    rfl
  exact ⟨cause, hkind, hinstruction, fun b => Body.feed_of_oneLiner hkeyword hinstruction⟩

/-- **A sprite with both fields** is drawn with the numbers that they spell. -/
lemma Command.sprite_of_spells {c : Command} {x y actor frame : Int} {p : Text}
    (htext : c.token = OneLiner.text.token) (hplaced : c.Places x y p) (h : p.AnnouncesSprite)
    (hlong : 6 ≤ p.length) (ha : ¬ p.actorField.IsSigned) (hactor : p.actorField.Spells actor)
    (hf : ¬ p.frameField.IsSigned) (hframe : p.frameField.Spells frame) :
    c.instruction? = .ok (some (.sprite (x + 2) (y + 1) actor frame)) := by
  obtain ⟨hne, rfl⟩ := hactor
  obtain ⟨hne', rfl⟩ := hframe
  obtain ⟨u, isActor⟩ := Text.exists_leads_of_unsigned ha hne
  obtain ⟨v, isFrame⟩ := Text.exists_leads_of_unsigned hf hne'
  rw [instruction?_of_text htext,
    run_of_draws (.shows hplaced (.sprite h hlong isActor isFrame))]
  rfl

namespace Catalog

end Catalog

end Cutscene
