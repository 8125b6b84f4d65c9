import Cutscene.Proofs.Fields
import Cutscene.Proofs.Soundness

/-!
What a text command draws, told from the characters of its line.

Two numerals place the drawing and a text says what it is. A colour anywhere in the text makes it a
big text, whatever stands before the colour. Only without a colour the first character counts: it
may announce a sprite, and then digits have to stand where those of the actor and the frame belong.
-/

namespace Cutscene

namespace Text

/-- The character stands for a colour. -/
def IsColor (c : Char) : Prop := 0xF0 ≤ c.toNat ∧ c.toNat ≤ 0xFF

instance (c : Char) : Decidable (IsColor c) := inferInstanceAs (Decidable (_ ∧ _))

/-- The text has no colour, and starts with the mark of a sprite. -/
structure AnnouncesSprite (t : Text) : Prop where
  plain : ∀ c ∈ t, ¬ IsColor c
  mark : t.head? = some spriteMark

instance (t : Text) : Decidable t.AnnouncesSprite :=
  decidable_of_iff (t.all (fun c => !decide (IsColor c)) = true ∧ t.head? = some spriteMark)
    ⟨fun h => ⟨by simpa using h.1, h.2⟩, fun h => ⟨by simpa using h.plain, h.mark⟩⟩

/-- In the text of a sprite, the characters that say which actor it is. -/
def actorField (t : Text) : Text := (t.drop 1).take 3

/-- In the text of a sprite, the characters that say which frame is shown. -/
def frameField (t : Text) : Text := (t.drop 4).take 2

/-! ### The first colour -/

/-- A text is split at a colour before which there is none. -/
lemma splitAtColor?_append {q t : Text} {m : Char} (hq : ∀ c ∈ q, ¬ IsColor c) (hm : IsColor m) :
    splitAtColor? (q ++ m :: t) = some (q.length, ((m.toNat - 0xF0 : Nat) : Int), t) := by
  induction q with
  | nil =>
    have hcolor : color? m = some ((m.toNat - 0xF0 : Nat) : Int) := if_pos hm
    rw [List.nil_append, splitAtColor?, hcolor]
    rfl
  | cons c q ih =>
    have hcolor : color? c = none := if_neg (hq c List.mem_cons_self)
    rw [List.cons_append, splitAtColor?, hcolor, ih fun d hd => hq d (List.mem_cons_of_mem c hd)]
    rfl

/-- There is no colour in a text, or there is a first one. -/
lemma exists_first_color (t : Text) :
    (∀ c ∈ t, ¬ IsColor c) ∨
      ∃ q m u, t = q ++ m :: u ∧ (∀ c ∈ q, ¬ IsColor c) ∧ IsColor m := by
  induction t with
  | nil => exact .inl (by simp)
  | cons c t ih =>
    by_cases hc : IsColor c
    · exact .inr ⟨[], c, t, rfl, by simp, hc⟩
    · obtain hnone | ⟨q, m, u, rfl, hq, hm⟩ := ih
      · exact .inl (List.forall_mem_cons.mpr ⟨hc, hnone⟩)
      · exact .inr ⟨c :: q, m, u, rfl, List.forall_mem_cons.mpr ⟨hc, hq⟩, hm⟩

end Text

/-! ### Short fields -/

lemma Numeral.Leads.length_le {n : Numeral} {t rest : Text} (h : n.Leads rest t) :
    n.digits.length ≤ t.length := by
  cases h
  simp only [List.length_append]
  omega

/-- In a few characters no numeral is too long. -/
lemma Text.leadingInt_field {n : Numeral} {t rest : Text} (h : n.Leads rest t)
    (ht : t.length ≤ 3) : leadingInt t = .ok (some n.value) := by
  have hlength : n.digits.length ≤ digitLimit := (h.length_le.trans ht).trans (by decide)
  rw [leadingInt_of_leads h, Numeral.read_of_length hlength]
  rfl

/-- A field is read as the numeral that leads it. -/
lemma Text.leadingInt_field_cases (t : Text) (ht : t.length ≤ 3) :
    (leadingInt t = .ok none ∧ ∀ n rest, ¬ Numeral.Leads n rest t) ∨
      ∃ n rest, Numeral.Leads n rest t ∧ leadingInt t = .ok (some n.value) := by
  by_cases h : ∀ n rest, ¬ Numeral.Leads n rest t
  · exact .inl ⟨leadingInt_of_absent h, h⟩
  · push Not at h
    obtain ⟨n, rest, hn⟩ := h
    exact .inr ⟨n, rest, hn, leadingInt_field hn ht⟩

namespace Text

variable (t : Text)

lemma length_actorField : t.actorField.length ≤ 3 := List.length_take_le 3 _

lemma length_frameField : t.frameField.length ≤ 3 :=
  (List.length_take_le 2 _).trans (by decide)

end Text

/-! ### Coordinates -/

namespace Take

variable {t rest : Text} {n : Numeral}

lemma runOn_int_of_leads (h : n.Leads rest t) (hn : n.digits.length ≤ digitLimit) :
    int.runOn (.ofText t) = (.ok n.value, .ofText rest) := by
  rw [runOn_int, Arguments.int_ofText_of_leads h, Numeral.read_of_length hn]

lemma runOn_int_of_long (h : n.Leads rest t) (hn : digitLimit < n.digits.length) :
    int.runOn (.ofText t) = (.error (.numeralTooLong n.digits.length), .ofText rest) := by
  rw [runOn_int, Arguments.int_ofText_of_leads h, Numeral.read_of_lt_length hn]

lemma runOn_int_of_absent (h : Numeral.Absent t) :
    int.runOn (.ofText t) = (.ok 0, ⟨Text.dropBlanks t, true⟩) := by
  rw [runOn_int, Arguments.int_ofText_of_absent h]

lemma runOn_int_of_failed {a : Arguments} (h : a.failed = true) : int.runOn a = (.ok 0, a) := by
  rw [runOn_int, Arguments.int_of_failed h]

end Take

namespace Command

variable {c : Command} {x y : Int} {p : Text} {r : Except Fault Instruction}

/-! ### The text -/

/-- What comes of the text of a command, at some place. -/
inductive Shows (c : Command) (x y : Int) (p : Text) : Except Fault Instruction → Prop
  | empty (nil : p = []) : Shows c x y p (.error (c.fault .emptyText))
  | bigText {q t : Text} {m : Char} (split : p = q ++ m :: t)
      (first : ∀ d ∈ q, ¬ Text.IsColor d) (color : Text.IsColor m) :
      Shows c x y p (.ok (.bigText (x + q.length) y (m.toNat - 0xF0 : Nat) t))
  | shortSprite (announced : p.AnnouncesSprite) (short : p.length < 6) :
      Shows c x y p (.error (c.fault .shortSprite))
  | badSprite (announced : p.AnnouncesSprite) (long : 6 ≤ p.length)
      (bad : (∀ n rest, ¬ Numeral.Leads n rest p.actorField) ∨
        ∀ n rest, ¬ Numeral.Leads n rest p.frameField) :
      Shows c x y p (.error (c.fault (.badSprite ((p.drop 1).take 5))))
  | sprite {actor frame : Numeral} {u v : Text} (announced : p.AnnouncesSprite)
      (long : 6 ≤ p.length) (isActor : actor.Leads u p.actorField)
      (isFrame : frame.Leads v p.frameField) :
      Shows c x y p (.ok (.sprite (x + 2) (y + 1) actor.value frame.value))
  | text (ne_nil : p ≠ []) (plain : ∀ d ∈ p, ¬ Text.IsColor d)
      (noMark : p.head? ≠ some spriteMark) : Shows c x y p (.ok (.text x y p))

/-- Without a colour, the first character decides. -/
lemma drawing_of_plain (hne : p ≠ []) (hp : ∀ d ∈ p, ¬ Text.IsColor d) :
    c.drawing x y p =
      if p.head? = some spriteMark then c.sprite x y p else .ok (.text x y p) := by
  obtain ⟨first, t, rfl⟩ := List.exists_cons_of_ne_nil hne
  simp only [drawing, Text.splitAtColor?_eq_none hp, List.head?_cons, Option.some.injEq]
  rfl

lemma drawing_of_announced (h : p.AnnouncesSprite) : c.drawing x y p = c.sprite x y p := by
  have hne : p ≠ [] := by
    rintro rfl
    cases h.mark
  rw [drawing_of_plain hne h.plain, if_pos h.mark]

lemma sprite_of_short (h : p.length < 6) :
    c.sprite x y p = .error (c.fault .shortSprite) := if_pos h

/-- A text that is long enough is a sprite if there are two numerals. -/
lemma sprite_of_long (h : 6 ≤ p.length) :
    c.sprite x y p = (do
      let actor ← Text.leadingInt p.actorField
      let frame ← Text.leadingInt p.frameField
      match actor, frame with
      | some actor, some frame => return .sprite (x + 2) (y + 1) actor frame
      | _, _ => throw (c.fault (.badSprite ((p.drop 1).take 5)))) :=
  if_neg (Nat.not_lt.mpr h)

lemma drawing_of_shows (h : c.Shows x y p r) : c.drawing x y p = r := by
  cases h with
  | empty nil =>
    subst nil
    rfl
  | @bigText q t m split first color =>
    have hne : p ≠ [] := by simp [split]
    obtain ⟨d, u, hp⟩ := List.exists_cons_of_ne_nil hne
    have hsplit := Text.splitAtColor?_append (t := t) first color
    rw [← split, hp] at hsplit
    simp only [hp, drawing, hsplit]
    rfl
  | shortSprite announced short => rw [drawing_of_announced announced, sprite_of_short short]
  | badSprite announced long bad =>
    rw [drawing_of_announced announced, sprite_of_long long]
    obtain bad | bad := bad
    · rw [Text.leadingInt_of_absent bad]
      obtain ⟨hframe, -⟩ | ⟨n, rest, -, hframe⟩ :=
        Text.leadingInt_field_cases p.frameField p.length_frameField <;>
      · rw [hframe]
        rfl
    · rw [Text.leadingInt_of_absent bad]
      obtain ⟨hactor, -⟩ | ⟨n, rest, -, hactor⟩ :=
        Text.leadingInt_field_cases p.actorField p.length_actorField <;>
      · rw [hactor]
        rfl
  | sprite announced long isActor isFrame =>
    rw [drawing_of_announced announced, sprite_of_long long,
      Text.leadingInt_field isActor p.length_actorField,
      Text.leadingInt_field isFrame p.length_frameField]
    rfl
  | text ne_nil plain noMark => rw [drawing_of_plain ne_nil plain, if_neg noMark]

/-- Something comes of every text. -/
lemma exists_shows (c : Command) (x y : Int) (p : Text) : ∃ r, c.Shows x y p r := by
  obtain hplain | ⟨q, m, t, hsplit, hfirst, hcolor⟩ := p.exists_first_color
  · by_cases hnil : p = []
    · exact ⟨_, .empty hnil⟩
    by_cases hmark : p.head? = some spriteMark
    · have hannounced : p.AnnouncesSprite := ⟨hplain, hmark⟩
      by_cases hshort : p.length < 6
      · exact ⟨_, .shortSprite hannounced hshort⟩
      have hlong : 6 ≤ p.length := Nat.not_lt.mp hshort
      obtain ⟨-, hactor⟩ | ⟨actor, u, hactor, -⟩ :=
        Text.leadingInt_field_cases p.actorField p.length_actorField
      · exact ⟨_, .badSprite hannounced hlong (.inl hactor)⟩
      obtain ⟨-, hframe⟩ | ⟨frame, v, hframe, -⟩ :=
        Text.leadingInt_field_cases p.frameField p.length_frameField
      · exact ⟨_, .badSprite hannounced hlong (.inr hframe)⟩
      · exact ⟨_, .sprite hannounced hlong hactor hframe⟩
    · exact ⟨_, .text hnil hplain hmark⟩
  · exact ⟨_, .bigText hsplit hfirst hcolor⟩

/-- **The text of a command** shows what is drawn, and nothing else. -/
lemma shows_iff : c.Shows x y p r ↔ c.drawing x y p = r := by
  constructor
  · exact drawing_of_shows
  · rintro rfl
    obtain ⟨r, hr⟩ := c.exists_shows x y p
    rwa [drawing_of_shows hr]

/-! ### The whole command -/

/-- The arguments are two numerals that can be read, and a text. -/
inductive Places (c : Command) : Int → Int → Text → Prop
  | intro {x y : Numeral} {u v : Text} (isX : x.Leads u c.arguments)
      (shortX : x.digits.length ≤ digitLimit) (isY : y.Leads v u)
      (shortY : y.digits.length ≤ digitLimit) : Places c x.value y.value v.payload

/-- What comes of a text command, told from its arguments. Without a place there is no text either;
a coordinate that is too long is a fault of its own. -/
inductive Draws (c : Command) : Except Fault Instruction → Prop
  | noX (none : ∀ n rest, ¬ Numeral.Leads n rest c.arguments) :
      Draws c (.error (c.fault .emptyText))
  | longX {x : Numeral} {u : Text} (isX : x.Leads u c.arguments)
      (long : digitLimit < x.digits.length) : Draws c (.error (.numeralTooLong x.digits.length))
  | noY {x : Numeral} {u : Text} (isX : x.Leads u c.arguments)
      (shortX : x.digits.length ≤ digitLimit) (none : ∀ n rest, ¬ Numeral.Leads n rest u) :
      Draws c (.error (c.fault .emptyText))
  | longY {x y : Numeral} {u v : Text} (isX : x.Leads u c.arguments)
      (shortX : x.digits.length ≤ digitLimit) (isY : y.Leads v u)
      (long : digitLimit < y.digits.length) : Draws c (.error (.numeralTooLong y.digits.length))
  | shows {x y : Int} {p : Text} {r : Except Fault Instruction} (placed : c.Places x y p)
      (text : c.Shows x y p r) : Draws c r

/-- The part of a text command after the coordinates. -/
lemma runOn_drawing (a : Arguments) :
    ((do c.drawing x y (← Take.text) : Take Instruction).runOn a).1 = c.drawing x y a.text.1 := by
  rw [Take.runOn_bind_of_ok (Take.runOn_text a), Take.runOn_lift]

lemma runOn_drawing_of_failed {a : Arguments} (h : a.failed = true) :
    ((do c.drawing x y (← Take.text) : Take Instruction).runOn a).1 =
      .error (c.fault .emptyText) := by
  rw [runOn_drawing, Arguments.text_of_failed h]
  rfl

lemma run_of_draws (h : c.Draws r) :
    ((OneLiner.text.instruction c).runOn (.ofText c.arguments)).1 = r := by
  unfold OneLiner.instruction
  cases h with
  | noX none =>
    rw [Take.runOn_bind_of_ok (Take.runOn_int_of_absent none),
      Take.runOn_bind_of_ok (Take.runOn_int_of_failed rfl)]
    exact runOn_drawing_of_failed rfl
  | longX isX long => rw [Take.runOn_bind, Take.runOn_int_of_long isX long]
  | noY isX shortX none =>
    rw [Take.runOn_bind_of_ok (Take.runOn_int_of_leads isX shortX),
      Take.runOn_bind_of_ok (Take.runOn_int_of_absent none)]
    exact runOn_drawing_of_failed rfl
  | longY isX shortX isY long =>
    rw [Take.runOn_bind_of_ok (Take.runOn_int_of_leads isX shortX), Take.runOn_bind,
      Take.runOn_int_of_long isY long]
  | shows placed text =>
    obtain ⟨isX, shortX, isY, shortY⟩ := placed
    rw [Take.runOn_bind_of_ok (Take.runOn_int_of_leads isX shortX),
      Take.runOn_bind_of_ok (Take.runOn_int_of_leads isY shortY), runOn_drawing,
      Arguments.text_ofText]
    exact drawing_of_shows text

/-- Something comes of every text command. -/
lemma exists_draws (c : Command) : ∃ r, c.Draws r := by
  by_cases hx : ∀ n rest, ¬ Numeral.Leads n rest c.arguments
  · exact ⟨_, .noX hx⟩
  push Not at hx
  obtain ⟨x, u, isX⟩ := hx
  obtain longX | shortX := Nat.lt_or_ge digitLimit x.digits.length
  · exact ⟨_, .longX isX longX⟩
  · by_cases hy : ∀ n rest, ¬ Numeral.Leads n rest u
    · exact ⟨_, .noY isX shortX hy⟩
    push Not at hy
    obtain ⟨y, v, isY⟩ := hy
    obtain longY | shortY := Nat.lt_or_ge digitLimit y.digits.length
    · exact ⟨_, .longY isX shortX isY longY⟩
    · obtain ⟨r, hr⟩ := c.exists_shows x.value y.value v.payload
      exact ⟨r, .shows (.intro isX shortX isY shortY) hr⟩

/-- **A text command** draws what its arguments say, and nothing else. -/
lemma draws_iff :
    c.Draws r ↔ ((OneLiner.text.instruction c).runOn (.ofText c.arguments)).1 = r := by
  constructor
  · exact run_of_draws
  · rintro rfl
    obtain ⟨r, hr⟩ := c.exists_draws
    rwa [run_of_draws hr]

lemma instruction?_of_text (h : c.token = OneLiner.text.token) :
    c.instruction? =
      some <$> ((OneLiner.text.instruction c).runOn (.ofText c.arguments)).1 := by
  have hkeyword : c.keyword? = some (.oneLiner .text) := keyword?_eq_some_iff.mpr h
  rw [instruction?_of_oneLiner hkeyword, unread_of_keyword? hkeyword]

/-- **The grammar of text commands.** When a text command stands on a line, it is the command of
that line, and exactly one thing comes of it. Two coordinates are read first, and the text is what
stands after one separating character, up to the first carriage return. It is an error if there is
no coordinate or no text. Otherwise, the first character from U+00F0 to U+00FF anywhere in the text
makes it a big text, whose place is moved by the characters before and whose content comes after.
If there is none, a text that starts with U+00EF is a sprite if it has six characters and a numeral
leads each of its two fields, and an error if not; the characters after the fields do not matter.
Any other text is drawn as it is. -/
theorem draws_exactly_one {c : Command} {t : Text} (h : c.StandsOn t)
    (htext : c.token = OneLiner.text.token) :
    ofLine? c.line t = some c ∧
      ∃ r, c.instruction? = some <$> r ∧ ∀ r', c.Draws r' ↔ r' = r := by
  refine ⟨ofLine?_of_standsOn h, _, instruction?_of_text htext, fun r' => ?_⟩
  rw [draws_iff, eq_comm]

/-- The mark of a sprite counts as one more character before the colour. -/
theorem draws_big_text_after_mark :
    let c : Command := ⟨"XYTEXT".toList, " +4 -5 \u00efa\u00f3b\rz".toList, 3⟩
    let t := "  ///XYTEXT +4 -5 \u00efa\u00f3b\rz\t".toList
    (c.StandsOn t ∧ c.token = OneLiner.text.token) ∧
      c.instruction? = .ok (some (.bigText 6 (-5) 3 "b".toList)) ∧
      ofLine? c.line t = some c ∧ ∃ r, c.instruction? = some <$> r ∧ ∀ r', c.Draws r' ↔ r' = r := by
  intro c t
  have hline : ofLine? 3 t = some c := by decide +kernel
  have hstands : c.StandsOn t := standsOn_of_ofLine? hline
  exact ⟨⟨hstands, rfl⟩, by decide +kernel, draws_exactly_one hstands rfl⟩

end Command

end Cutscene
