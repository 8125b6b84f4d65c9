import Cutscene.Proofs.Escapes
import Cutscene.Proofs.Numerals

/-!
A reader of JSON, and what is printed read by it.

The reader takes one character after the other. It knows which arrays and objects are open, with
what is complete of them, and what it is in the middle of. A number is complete only when something
else comes. Blanks may stand between any two parts of a value, so it does not matter how far lines
are indented. Of all values it knows those that are printed: whole numbers, strings, arrays and
objects.
-/

namespace Cutscene

namespace Json

/-- What is open around the place that is being read. -/
inductive Frame
  | array (before : List Json)
  /-- An object in which a key is next. -/
  | members (before : List (Text × Json))
  /-- An object in which the value of a key is next. -/
  | member (before : List (Text × Json)) (key : Text)

/-- What the reader is in the middle of. -/
inductive Place
  /-- A value is to come, or the end of an array in which there is nothing yet. -/
  | value
  /-- A key is to come, or the end of an object in which there is nothing yet. -/
  | key
  | colon
  | quoted (isKey : Bool) (q : Quoted)
  | number (n : Numeral)
  | complete (j : Json)

/-- The open frames, from the inside to the outside, and the place within them. -/
structure Reading where
  outer : List Frame
  place : Place

/-- The character may stand between two parts of a value. -/
def isSpace (c : Char) : Bool := c = ' ' || c = '\n' || c = '\r' || c = '\t'

namespace Reading

def start : Reading := ⟨[], .value⟩

/-- The first character of a value. -/
def openValue (outer : List Frame) (c : Char) : Option Reading :=
  match c with
  | '"' => some ⟨outer, .quoted false .start⟩
  | '[' => some ⟨.array [] :: outer, .value⟩
  | '\x7b' => some ⟨.members [] :: outer, .key⟩
  | '-' => some ⟨outer, .number ⟨true, []⟩⟩
  | ']' =>
    match outer with
    | .array [] :: outer => some ⟨outer, .complete (.array [])⟩
    | _ => none
  | c => if c.isDigit then some ⟨outer, .number ⟨false, [c]⟩⟩ else none

/-- The first character of a key, or the end of an empty object. -/
def openKey (outer : List Frame) (c : Char) : Option Reading :=
  match c, outer with
  | '"', outer => some ⟨outer, .quoted true .start⟩
  | '\x7d', .members [] :: outer => some ⟨outer, .complete (.object [])⟩
  | _, _ => none

/-- A string is complete. -/
def closeString (outer : List Frame) (isKey : Bool) (t : Text) : Option Reading :=
  match isKey, outer with
  | false, outer => some ⟨outer, .complete (.string t)⟩
  | true, .members before :: outer => some ⟨.member before t :: outer, .colon⟩
  | true, _ => none

/-- The character after a complete value. -/
def afterValue (outer : List Frame) (j : Json) (c : Char) : Option Reading :=
  if isSpace c then some ⟨outer, .complete j⟩
  else
    match c, outer with
    | ',', .array before :: outer => some ⟨.array (before ++ [j]) :: outer, .value⟩
    | ']', .array before :: outer => some ⟨outer, .complete (.array (before ++ [j]))⟩
    | ',', .member before key :: outer => some ⟨.members (before ++ [(key, j)]) :: outer, .key⟩
    | '\x7d', .member before key :: outer =>
      some ⟨outer, .complete (.object (before ++ [(key, j)]))⟩
    | _, _ => none

/-- One more character. No digit follows a leading zero. -/
def step (r : Reading) (c : Char) : Option Reading :=
  match r.place with
  | .value => if isSpace c then some r else openValue r.outer c
  | .key => if isSpace c then some r else openKey r.outer c
  | .colon =>
    if isSpace c then some r else if c = ':' then some ⟨r.outer, .value⟩ else none
  | .quoted isKey q =>
    match q.step c with
    | some q => some ⟨r.outer, .quoted isKey q⟩
    | none =>
      if c = '"' ∧ q.state = .plain then closeString r.outer isKey q.text else none
  | .number n =>
    if c.isDigit then
      if n.digits = ['0'] then none
      else some ⟨r.outer, .number { n with digits := n.digits ++ [c] }⟩
    else if n.digits = [] then none
    else afterValue r.outer (.number n.value) c
  | .complete j => afterValue r.outer j c

def run (r : Reading) (t : Text) : Option Reading := t.foldlM step r

@[simp] theorem run_nil (r : Reading) : r.run [] = some r := rfl

@[simp] theorem run_cons (r : Reading) (c : Char) (t : Text) :
    r.run (c :: t) = (r.step c).bind fun r => r.run t := rfl

theorem run_append (r : Reading) (s t : Text) :
    r.run (s ++ t) = (r.run s).bind fun r => r.run t := by
  simp only [run, List.foldlM_append]
  rfl

/-- The value that is complete at the place, if the text ends here. -/
def value? (r : Reading) : Option Json :=
  match r.place with
  | .complete j => some j
  | .number n => if n.digits = [] then none else some (.number n.value)
  | _ => none

end Reading

/-- The value that a text is, with blanks around it or without. -/
def read? (t : Text) : Option Json :=
  match Reading.start.run t with
  | some ⟨[], place⟩ => Reading.value? ⟨[], place⟩
  | _ => none

namespace Reading

/-! ### Blanks and strings -/

/-- Within the frames a value has been read. -/
structure HasRead (r : Reading) (outer : List Frame) (j : Json) : Prop where
  outer : r.outer = outer
  value : r.value? = some j

lemma hasRead_complete (outer : List Frame) (j : Json) : HasRead ⟨outer, .complete j⟩ outer j :=
  ⟨rfl, rfl⟩

/-- Unless it is a digit, a character after a value does not depend on how the value was written. -/
lemma HasRead.step {r : Reading} {outer : List Frame} {j : Json} {c : Char}
    (h : r.HasRead outer j) (hc : c.isDigit = false) : r.step c = afterValue outer j c := by
  obtain ⟨rfl, hvalue⟩ := h
  obtain ⟨outer, place⟩ := r
  cases place <;> simp only [value?] at hvalue <;> try cases hvalue
  · split at hvalue
    · cases hvalue
    · rename_i hne
      cases hvalue
      simp only [Reading.step, hc, if_neg hne, Bool.false_eq_true, if_false]
  · rfl

lemma run_of_stays {r : Reading} {t : Text} (h : ∀ c ∈ t, r.step c = some r) :
    r.run t = some r := by
  induction t with
  | nil => rfl
  | cons c t ih =>
    obtain ⟨hc, ht⟩ := List.forall_mem_cons.mp h
    rw [run_cons, hc, Option.bind_some, ih ht]

lemma isSpace_of_mem_newLine {pad depth : Nat} {c : Char} (h : c ∈ newLine pad depth) :
    isSpace c = true := by
  rcases List.mem_cons.mp h with rfl | h
  · rfl
  · rw [List.eq_of_mem_replicate h]
    rfl

lemma HasRead.run_newLine {r : Reading} {outer : List Frame} {j : Json} (h : r.HasRead outer j)
    (pad depth : Nat) : r.run (newLine pad depth) = some ⟨outer, .complete j⟩ := by
  have hstays : ∀ c ∈ List.replicate (pad * depth) ' ',
      Reading.step ⟨outer, .complete j⟩ c = some ⟨outer, .complete j⟩ := by
    intro c hc
    rw [List.eq_of_mem_replicate hc]
    rfl
  rw [newLine, run_cons, h.step rfl, show afterValue outer j '\n' = some ⟨outer, .complete j⟩
    from rfl, Option.bind_some, run_of_stays hstays]

/-- What is read between the quotes is read inside of a value too. -/
lemma run_quoted (outer : List Frame) (isKey : Bool) {q q' : Quoted} {t : Text}
    (h : q.run t = some q') :
    run ⟨outer, .quoted isKey q⟩ t = some ⟨outer, .quoted isKey q'⟩ := by
  induction t generalizing q with
  | nil =>
    cases h
    rfl
  | cons c t ih =>
    rw [Quoted.run_cons] at h
    obtain ⟨q₁, hq₁, hrest⟩ := Option.bind_eq_some_iff.mp h
    rw [run_cons, show step ⟨outer, .quoted isKey q⟩ c = some ⟨outer, .quoted isKey q₁⟩ by
      simp only [step, hq₁], Option.bind_some, ih hrest]

/-- **A string is read back**, as a value and as a key. -/
lemma run_renderString (outer : List Frame) (isKey : Bool) (t : Text) :
    run ⟨outer, if isKey then .key else .value⟩ (renderString t) = closeString outer isKey t := by
  have hopen : step ⟨outer, if isKey then .key else .value⟩ '"' =
      some ⟨outer, .quoted isKey .start⟩ := by
    cases isKey <;> rfl
  have hescapes : Quoted.start.run (t.flatMap escape) = some ⟨t, .plain⟩ :=
    Quoted.run_escapes [] t
  have hclose : step ⟨outer, .quoted isKey ⟨t, .plain⟩⟩ '"' = closeString outer isKey t := rfl
  rw [renderString, List.cons_append, run_cons, hopen, Option.bind_some, run_append,
    run_quoted outer isKey hescapes, Option.bind_some, run_cons, hclose]
  simp only [run_nil, Option.bind_fun_some]

/-! ### Numbers -/

/-- Digits are read on after others, unless they come after a leading zero. -/
lemma run_digits (outer : List Frame) (negative : Bool) {ds more : Text}
    (hmore : ∀ c ∈ more, c.isDigit = true) (hzero : ∀ t, ds ++ more = '0' :: t → t = []) :
    run ⟨outer, .number ⟨negative, ds⟩⟩ more = some ⟨outer, .number ⟨negative, ds ++ more⟩⟩ := by
  induction more generalizing ds with
  | nil => rw [List.append_nil, run_nil]
  | cons c more ih =>
    obtain ⟨hc, hmore⟩ := List.forall_mem_cons.mp hmore
    have hds : ds ≠ ['0'] := by
      rintro rfl
      cases hzero _ rfl
    have hstep : step ⟨outer, .number ⟨negative, ds⟩⟩ c =
        some ⟨outer, .number ⟨negative, ds ++ [c]⟩⟩ := by
      simp only [step, if_pos hc, if_neg hds]
    have hsplit : ds ++ [c] ++ more = ds ++ c :: more := List.append_assoc ..
    rw [run_cons, hstep, Option.bind_some, ih hmore (by rwa [hsplit]), hsplit]

lemma openValue_of_isDigit (outer : List Frame) {c : Char} (hc : c.isDigit = true) :
    step ⟨outer, .value⟩ c = some ⟨outer, .number ⟨false, [c]⟩⟩ := by
  have hspace : isSpace c = false := by
    simp only [isSpace, Bool.or_eq_false_iff, decide_eq_false_iff_not]
    refine ⟨⟨⟨?_, ?_⟩, ?_⟩, ?_⟩ <;> (rintro rfl; cases hc)
  simp only [step, hspace, Bool.false_eq_true, if_false]
  unfold openValue
  split
  all_goals first | cases hc | rw [if_pos hc]

/-- No number but zero is written with a zero in front. -/
lemma eq_nil_of_ofNat_eq_zero_cons {n : Nat} {t : Text} (h : Text.ofNat n = '0' :: t) :
    t = [] := by
  unfold Text.ofNat at h
  induction n using Nat.strong_induction_on generalizing t with
  | _ n ih =>
    by_cases hn : n < 10
    · rw [Nat.toDigits_of_lt_base hn] at h
      exact (List.cons.inj h).2.symm
    · rw [Nat.toDigits_of_base_le (by decide) (Nat.le_of_not_lt hn)] at h
      obtain ⟨c, ds, hds⟩ := List.exists_cons_of_ne_nil
        (Nat.toDigits_ne_nil (n := n / 10) (b := 10))
      rw [hds, List.cons_append] at h
      obtain ⟨rfl, -⟩ := List.cons.inj h
      -- then the number without its last digit is zero
      have hnil := ih (n / 10) (by omega) hds
      have hvalue := Text.ofDigitChars_ofNat (n / 10)
      rw [Text.ofNat, hds, hnil] at hvalue
      have : (0 : Nat) = n / 10 := hvalue
      omega

/-- **A number is read back**, up to what comes after it. -/
lemma run_ofInt (outer : List Frame) (n : Int) :
    run ⟨outer, .value⟩ (Text.ofInt n) = some ⟨outer, .number (Numeral.ofInt n)⟩ := by
  have hdigits (k : Nat) : ∀ c ∈ Text.ofNat k, c.isDigit = true := fun c =>
    Text.isDigit_of_mem_ofNat
  cases n with
  | ofNat k =>
    obtain ⟨c, ds, hds⟩ := List.exists_cons_of_ne_nil (Nat.toDigits_ne_nil (n := k) (b := 10))
    have hk : Text.ofInt (.ofNat k) = c :: ds := hds
    have hnumeral : Numeral.ofInt (.ofNat k) = ⟨false, c :: ds⟩ := by
      rw [← hds]
      simp [Numeral.ofInt, Text.ofNat]
    have hall : ∀ d ∈ c :: ds, d.isDigit = true := hds ▸ hdigits k
    obtain ⟨hc, hmore⟩ := List.forall_mem_cons.mp hall
    rw [hk, hnumeral, run_cons, openValue_of_isDigit outer hc, Option.bind_some,
      run_digits outer false hmore fun t ht => eq_nil_of_ofNat_eq_zero_cons (hds.trans ht)]
    rfl
  | negSucc k =>
    have hnumeral : Numeral.ofInt (.negSucc k) = ⟨true, Text.ofNat (k + 1)⟩ := by
      simp [Numeral.ofInt, Int.negSucc_lt_zero]
    rw [hnumeral, Text.ofInt, run_cons, show step ⟨outer, .value⟩ '-' =
      some ⟨outer, .number ⟨true, []⟩⟩ from rfl, Option.bind_some,
      run_digits outer true (hdigits (k + 1)) fun t ht => eq_nil_of_ofNat_eq_zero_cons ht]
    rfl

lemma hasRead_number (outer : List Frame) (n : Int) :
    HasRead ⟨outer, .number (Numeral.ofInt n)⟩ outer (.number n) where
  outer := rfl
  value := by
    have hne : (Numeral.ofInt n).digits ≠ [] := Nat.toDigits_ne_nil
    simp only [value?, if_neg hne, Numeral.value_ofInt]

/-! ### Arrays and objects -/

/-- Brackets of one kind, within some frames: where the reader is inside of them, after some items,
and the value that the items are when the brackets are closed. -/
structure Brackets (β : Type) (outer : List Frame) where
  opening : Char
  closing : Char
  inside : List β → Reading
  whole : List β → Json
  step_opening : step ⟨outer, .value⟩ opening = some (inside [])
  step_closing : step (inside []) closing = some ⟨outer, .complete (whole [])⟩
  step_space : ∀ before {c : Char}, isSpace c = true → step (inside before) c = some (inside before)
  isDigit_closing : closing.isDigit = false

namespace Brackets

variable {β : Type} {outer : List Frame} (k : Brackets β outer)

/-- The text is read as one more item, whatever items were before. -/
def Takes (t : Text) (b : β) : Prop :=
  ∀ before, ∃ r frames j, run (k.inside before) t = some r ∧ r.HasRead frames j ∧
    afterValue frames j ',' = some (k.inside (before ++ [b])) ∧
    afterValue frames j k.closing = some ⟨outer, .complete (k.whole (before ++ [b]))⟩

variable {k} {text : β → Text}

lemma run_newLine (before : List β) (pad depth : Nat) :
    run (k.inside before) (newLine pad depth) = some (k.inside before) :=
  run_of_stays fun _ hc => k.step_space before (isSpace_of_mem_newLine hc)

/-- Items are read one after the other, up to the closing bracket. -/
lemma run_items (pad depth : Nat) {b : β} {bs : List β} (h : ∀ b' ∈ b :: bs, k.Takes (text b') b')
    (before : List β) :
    run (k.inside before)
        ((',' :: newLine pad (depth + 1)).intercalate ((b :: bs).map text) ++
          (newLine pad depth ++ [k.closing])) =
      some ⟨outer, .complete (k.whole (before ++ b :: bs))⟩ := by
  -- by induction on the items after the first; a comma is before each of them
  induction bs generalizing b before with
  | nil =>
    obtain ⟨r, frames, j, hrun, hread, -, hclose⟩ := h b List.mem_cons_self before
    rw [List.map_singleton, List.intercalate_singleton, run_append, hrun, Option.bind_some,
      run_append, hread.run_newLine, Option.bind_some, run_cons,
      (hasRead_complete frames j).step k.isDigit_closing, hclose]
    rfl
  | cons b' bs ih =>
    obtain ⟨hb, hbs⟩ := List.forall_mem_cons.mp h
    obtain ⟨r, frames, j, hrun, hread, hcomma, -⟩ := hb before
    have hrest := ih hbs (before ++ [b])
    rw [List.append_assoc, List.singleton_append] at hrest
    rw [List.map_cons, List.map_cons, List.intercalate_cons_cons, List.append_assoc,
      List.append_assoc, run_append, hrun, Option.bind_some, List.cons_append, run_cons,
      hread.step rfl, hcomma, Option.bind_some, run_append, run_newLine, Option.bind_some,
      ← List.map_cons, hrest]

/-- **What is in brackets is read back** if each item is. -/
lemma run_bracket (pad depth : Nat) {items : List β} (h : ∀ b ∈ items, k.Takes (text b) b) :
    run ⟨outer, .value⟩ (bracket pad depth k.opening k.closing (items.map text)) =
      some ⟨outer, .complete (k.whole items)⟩ := by
  cases items with
  | nil =>
    rw [List.map_nil, bracket, run_cons, k.step_opening, Option.bind_some, run_cons,
      k.step_closing]
    rfl
  | cons b bs =>
    have hitems := run_items pad depth h []
    rw [List.nil_append] at hitems
    rw [List.map_cons, bracket, ← List.map_cons, List.append_assoc, List.append_assoc,
      List.cons_append, run_cons, k.step_opening, Option.bind_some, run_append, run_newLine,
      Option.bind_some, hitems]
    exact List.cons_ne_nil _ _

end Brackets

def arrayIn (outer : List Frame) : Brackets Json outer where
  opening := '['
  closing := ']'
  inside before := ⟨.array before :: outer, .value⟩
  whole := .array
  step_opening := rfl
  step_closing := rfl
  step_space before c hc := by simp only [step, hc, if_true]
  isDigit_closing := rfl

def objectIn (outer : List Frame) : Brackets (Text × Json) outer where
  opening := '\x7b'
  closing := '\x7d'
  inside before := ⟨.members before :: outer, .key⟩
  whole := .object
  step_opening := rfl
  step_closing := rfl
  step_space before c hc := by simp only [step, hc, if_true]
  isDigit_closing := rfl

/-! ### All values -/

end Reading

/-- What holds of numbers and strings, and of arrays and objects if it does of all that is in them,
holds of every value. -/
@[elab_as_elim]
theorem induction {motive : Json → Prop} (number : ∀ n, motive (.number n))
    (string : ∀ t, motive (.string t))
    (array : ∀ items, (∀ j ∈ items, motive j) → motive (.array items))
    (object : ∀ members, (∀ m ∈ members, motive m.2) → motive (.object members))
    (j : Json) : motive j :=
  @Json.rec motive (fun items => ∀ j ∈ items, motive j) (fun members => ∀ m ∈ members, motive m.2)
    (fun m => motive m.2) number string array object (by simp)
    (fun _ _ hj hjs => List.forall_mem_cons.mpr ⟨hj, hjs⟩) (by simp)
    (fun _ _ hm hms => List.forall_mem_cons.mpr ⟨hm, hms⟩) (fun _ _ hj => hj) j

lemma renderItems_eq_map (pad depth : Nat) (js : List Json) :
    renderItems pad depth js = js.map (renderAt pad depth) := by
  induction js with
  | nil => rfl
  | cons j js ih => rw [renderItems, ih, List.map_cons]

def renderMember (pad depth : Nat) (m : Text × Json) : Text :=
  renderString m.1 ++ ": ".toList ++ renderAt pad depth m.2

lemma renderMembers_eq_map (pad depth : Nat) (ms : List (Text × Json)) :
    renderMembers pad depth ms = ms.map (renderMember pad depth) := by
  induction ms with
  | nil => rfl
  | cons m ms ih => rw [renderMembers, ih, List.map_cons, renderMember]

namespace Reading

/-- **Every value is read back**, at any depth and whatever is open around it. -/
lemma exists_run_renderAt (j : Json) (pad depth : Nat) (outer : List Frame) :
    ∃ r, run ⟨outer, .value⟩ (renderAt pad depth j) = some r ∧ r.HasRead outer j := by
  induction j using Json.induction generalizing depth outer with
  | number n => exact ⟨_, run_ofInt outer n, hasRead_number outer n⟩
  | string t => exact ⟨_, run_renderString outer false t, hasRead_complete outer (.string t)⟩
  | array items ih =>
    have hitems : ∀ j ∈ items, (arrayIn outer).Takes (renderAt pad (depth + 1) j) j := by
      intro j hj before
      obtain ⟨r, hrun, hread⟩ := ih j hj (depth + 1) (.array before :: outer)
      exact ⟨r, _, j, hrun, hread, rfl, rfl⟩
    rw [renderAt, renderItems_eq_map]
    exact ⟨_, (arrayIn outer).run_bracket pad depth hitems, hasRead_complete outer _⟩
  | object members ih =>
    have hmembers : ∀ m ∈ members,
        (objectIn outer).Takes (renderMember pad (depth + 1) m) m := by
      intro m hm before
      obtain ⟨r, hrun, hread⟩ := ih m hm (depth + 1) (.member before m.1 :: outer)
      refine ⟨r, _, m.2, ?_, hread, rfl, rfl⟩
      have hkey : run ⟨.members before :: outer, .key⟩ (renderString m.1) =
          some ⟨.member before m.1 :: outer, .colon⟩ := run_renderString _ true m.1
      have hcolon : run ⟨.member before m.1 :: outer, .colon⟩ ": ".toList =
          some ⟨.member before m.1 :: outer, .value⟩ := rfl
      rw [renderMember, run_append, run_append, objectIn, hkey, Option.bind_some, hcolon,
        Option.bind_some, hrun]
    rw [renderAt, renderMembers_eq_map]
    exact ⟨_, (objectIn outer).run_bracket pad depth hmembers, hasRead_complete outer _⟩

end Reading

/-- **What is printed is read back**, for every value and every indentation. -/
theorem read?_render (indent : Int) (j : Json) : read? (render indent j) = some j := by
  obtain ⟨⟨outer, place⟩, hrun, hread⟩ := Reading.exists_run_renderAt j indent.toNat 0 []
  obtain rfl : outer = [] := hread.outer
  have hrun' : Reading.start.run (render indent j) = some ⟨[], place⟩ := hrun
  rw [read?, hrun']
  exact hread.value

/-- Blanks between the parts, capital digits and escapes that are never printed are read as well. -/
example : read? "[ 1 ,\t\"\\/\\u00E9\\ud834\\uDD1E\" ]".toList =
    some (.array [.number 1, .string "/é𝄞".toList]) := by
  cbv

/-- A leading zero, a comma before nothing and half of a character are refused. -/
example : read? "[01]".toList = none ∧ read? "[1,]".toList = none ∧
    read? "\"\\ud834\"".toList = none := by
  exact ⟨rfl, rfl, rfl⟩

/-! ### Plain ASCII -/

lemma toNat_lt_of_mem_renderString {t : Text} {c : Char} (h : c ∈ renderString t) :
    c.toNat < 0x80 := by
  simp only [renderString, List.cons_append, List.mem_cons, List.mem_append, List.not_mem_nil,
    or_false] at h
  rcases h with rfl | h | rfl
  · decide
  · obtain ⟨x, -, hx⟩ := List.mem_flatMap.mp h
    exact toNat_lt_of_mem_escape hx
  · decide

lemma toNat_lt_of_mem_newLine {pad depth : Nat} {c : Char} (h : c ∈ newLine pad depth) :
    c.toNat < 0x80 := by
  rcases List.mem_cons.mp h with rfl | h
  · decide
  · rw [List.eq_of_mem_replicate h]
    decide

lemma toNat_lt_of_mem_intercalate {sep : Text} {items : List Text}
    (hsep : ∀ c ∈ sep, c.toNat < 0x80) (hitems : ∀ t ∈ items, ∀ c ∈ t, c.toNat < 0x80) :
    ∀ c ∈ sep.intercalate items, c.toNat < 0x80 := by
  induction items with
  | nil => simp
  | cons t ts ih =>
    obtain ⟨ht, hts⟩ := List.forall_mem_cons.mp hitems
    cases ts with
    | nil => rwa [List.intercalate_singleton]
    | cons u us =>
      rw [List.intercalate_cons_cons]
      exact List.forall_mem_append.mpr ⟨List.forall_mem_append.mpr ⟨ht, hsep⟩, ih hts⟩

lemma toNat_lt_of_mem_bracket {pad depth : Nat} {opening closing : Char} {items : List Text}
    (hopening : opening.toNat < 0x80) (hclosing : closing.toNat < 0x80)
    (hitems : ∀ t ∈ items, ∀ c ∈ t, c.toNat < 0x80) :
    ∀ c ∈ bracket pad depth opening closing items, c.toNat < 0x80 := by
  have hsep : ∀ c ∈ ',' :: newLine pad (depth + 1), c.toNat < 0x80 :=
    List.forall_mem_cons.mpr ⟨by decide, fun _ => toNat_lt_of_mem_newLine⟩
  intro c hc
  cases items with
  | nil =>
    simp only [bracket, List.mem_cons, List.not_mem_nil, or_false] at hc
    rcases hc with rfl | rfl <;> assumption
  | cons t ts =>
    simp only [bracket, List.cons_append, List.mem_cons, List.mem_append, List.not_mem_nil,
      or_false] at hc
    rcases hc with rfl | ((hc | hc) | hc) | rfl
    · exact hopening
    · exact toNat_lt_of_mem_newLine hc
    · exact toNat_lt_of_mem_intercalate hsep hitems c hc
    · exact toNat_lt_of_mem_newLine hc
    · exact hclosing

lemma toNat_lt_of_mem_ofInt {n : Int} {c : Char} (h : c ∈ Text.ofInt n) : c.toNat < 0x80 := by
  have hdigit {k : Nat} (hc : c ∈ Text.ofNat k) : c.toNat < 0x80 := by
    have := Char.isDigit_iff_toNat.mp (Text.isDigit_of_mem_ofNat hc)
    simp only [Char.reduceToNat] at this
    omega
  cases n with
  | ofNat k => exact hdigit h
  | negSucc k =>
    rcases List.mem_cons.mp h with rfl | h
    · decide
    · exact hdigit h

/-- **What is printed is plain ASCII.** -/
lemma toNat_lt_of_mem_renderAt (j : Json) (pad depth : Nat) :
    ∀ c ∈ renderAt pad depth j, c.toNat < 0x80 := by
  induction j using Json.induction generalizing depth with
  | number n => exact fun c hc => toNat_lt_of_mem_ofInt hc
  | string t => exact fun c hc => toNat_lt_of_mem_renderString hc
  | array items ih =>
    rw [renderAt, renderItems_eq_map]
    refine toNat_lt_of_mem_bracket (by decide) (by decide) ?_
    exact List.forall_mem_map.mpr fun j hj => ih j hj (depth + 1)
  | object members ih =>
    rw [renderAt, renderMembers_eq_map]
    refine toNat_lt_of_mem_bracket (by decide) (by decide) ?_
    refine List.forall_mem_map.mpr fun m hm => ?_
    have hcolon : ∀ c ∈ ": ".toList, c.toNat < 0x80 := by simp
    refine List.forall_mem_append.mpr ⟨List.forall_mem_append.mpr ⟨?_, hcolon⟩, ?_⟩
    · exact fun c hc => toNat_lt_of_mem_renderString hc
    · exact ih m hm (depth + 1)

end Json

end Cutscene
