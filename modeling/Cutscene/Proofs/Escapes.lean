import Mathlib.Tactic.Common
import Cutscene.Json

/-!
What stands between the quotes of a JSON string, read back.

Escapes are undone one character after the other. A backslash and a letter stand for one character,
and so do the four digits of a UTF-16 unit, except that a unit of the upper surrogates has to be
followed by one of the lower ones, and only both of them are a character. Every character of a text
is escaped in one of these ways or not at all, and each of them is undone.
-/

namespace Cutscene

/-! ### Four digits -/

namespace Text

/-- The last digit of a hexadecimal number, and those before it. -/
lemma hex_succ {width : Nat} (hw : 0 < width) (n : Nat) :
    hex (width + 1) n = hex width (n / 16) ++ [(n % 16).digitChar] := by
  obtain ⟨w, rfl⟩ := Nat.exists_eq_succ_of_ne_zero (Nat.ne_of_gt hw)
  unfold hex List.leftpad
  by_cases h : n < 16
  · rw [Nat.toDigits_of_lt_base h, Nat.div_eq_of_lt h, Nat.mod_eq_of_lt h, Nat.toDigits_zero,
      List.length_singleton, List.length_singleton]
    simp [← List.replicate_succ']
  · rw [Nat.toDigits_of_base_le (by decide) (Nat.le_of_not_lt h), List.length_append,
      List.length_singleton, Nat.add_sub_add_right, List.append_assoc]

lemma hex_one {n : Nat} (h : n < 16) : hex 1 n = [n.digitChar] := by
  rw [hex, Nat.toDigits_of_lt_base h]
  rfl

lemma hex_four {n : Nat} (h : n < 0x10000) :
    hex 4 n = [(n / 16 / 16 / 16).digitChar, (n / 16 / 16 % 16).digitChar,
      (n / 16 % 16).digitChar, (n % 16).digitChar] := by
  rw [hex_succ (by decide), hex_succ (by decide), hex_succ (by decide), hex_one (by omega)]
  rfl

end Text

namespace Json

/-- The value of a hexadecimal digit, in small or in capital letters. -/
def hexDigit? (c : Char) : Option Nat :=
  if c.isDigit then some (c.toNat - '0'.toNat)
  else if 'a' ≤ c ∧ c ≤ 'f' then some (c.toNat - 'a'.toNat + 10)
  else if 'A' ≤ c ∧ c ≤ 'F' then some (c.toNat - 'A'.toNat + 10)
  else none

lemma hexDigit?_digitChar {d : Nat} (h : d < 16) : hexDigit? d.digitChar = some d := by
  revert h
  revert d
  decide

/-! ### Between the quotes -/

/-- What may come next between the quotes of a string. -/
inductive Quoting
  | plain
  /-- The letter after a backslash, or only that of a unit if there is an upper surrogate before. -/
  | letter (upper : Option Nat)
  /-- A digit of a unit, after some digits of a value. -/
  | digit (upper : Option Nat) (count value : Nat)
  /-- The backslash of a lower surrogate. -/
  | lower (upper : Nat)
deriving DecidableEq

/-- What has been read of a string, and what may come next. -/
structure Quoted where
  text : Text
  state : Quoting

/-- The character that a letter after a backslash stands for. -/
def letter? : Char → Option Char
  | '"' => some '"'
  | '\\' => some '\\'
  | '/' => some '/'
  | 'b' => some '\x08'
  | 'f' => some '\x0c'
  | 'n' => some '\n'
  | 'r' => some '\r'
  | 't' => some '\t'
  | _ => none

/-- What is printed for a character: itself, or one of the escapes. -/
inductive Escapes (c : Char) : Text → Prop
  | letter {l : Char} (h : letter? l = some c) : Escapes c ['\\', l]
  | plain (quote : c ≠ '"') (slash : c ≠ '\\') (low : 0x20 ≤ c.toNat) (high : c.toNat ≤ 0x7E) :
      Escapes c [c]
  | unit (h : c.toNat < 0x10000) : Escapes c (escapeUnit c.toNat)
  | pair (h : 0x10000 ≤ c.toNat) :
      Escapes c (escapeUnit (0xD800 + (c.toNat - 0x10000) / 0x400) ++
        escapeUnit (0xDC00 + (c.toNat - 0x10000) % 0x400))

lemma escapes_escape (c : Char) : Escapes c (escape c) := by
  by_cases hquote : c = '"'
  · subst hquote
    exact .letter (l := '"') rfl
  by_cases hslash : c = '\\'
  · subst hslash
    exact .letter (l := '\\') rfl
  by_cases hback : c = '\x08'
  · subst hback
    exact .letter (l := 'b') rfl
  by_cases hfeed : c = '\x0c'
  · subst hfeed
    exact .letter (l := 'f') rfl
  by_cases hnewline : c = '\n'
  · subst hnewline
    exact .letter (l := 'n') rfl
  by_cases hreturn : c = '\r'
  · subst hreturn
    exact .letter (l := 'r') rfl
  by_cases htab : c = '\t'
  · subst htab
    exact .letter (l := 't') rfl
  rw [escape, if_neg hquote, if_neg hslash, if_neg hback, if_neg hfeed, if_neg hnewline,
    if_neg hreturn, if_neg htab]
  split
  · rename_i h
    exact .plain hquote hslash h.1 h.2
  · split
    · rename_i h
      exact .unit h
    · rename_i h
      exact .pair (Nat.le_of_not_lt h)

namespace Quoted

def start : Quoted := ⟨[], .plain⟩

def add (q : Quoted) (c : Char) : Quoted := ⟨q.text ++ [c], .plain⟩

/-- A UTF-16 unit is complete. Surrogates come in pairs, the upper one first. -/
def addUnit (q : Quoted) (upper : Option Nat) (u : Nat) : Option Quoted :=
  match upper with
  | none =>
    if 0xD800 ≤ u ∧ u < 0xDC00 then some { q with state := .lower u }
    else if 0xDC00 ≤ u ∧ u < 0xE000 then none
    else some (q.add (Char.ofNat u))
  | some h =>
    if 0xDC00 ≤ u ∧ u < 0xE000 then
      some (q.add (Char.ofNat (0x10000 + (h - 0xD800) * 0x400 + (u - 0xDC00))))
    else none

/-- One more character. Quotes are part of a string only when they are escaped, and control
characters never are. -/
def step (q : Quoted) (c : Char) : Option Quoted :=
  match q.state with
  | .plain =>
    if c = '\\' then some { q with state := .letter none }
    else if c = '"' ∨ c.toNat < 0x20 then none
    else some (q.add c)
  | .letter upper =>
    if c = 'u' then some { q with state := .digit upper 0 0 }
    else if upper = none then (letter? c).map q.add
    else none
  | .digit upper count value =>
    match hexDigit? c with
    | none => none
    | some d =>
      if count < 3 then some { q with state := .digit upper (count + 1) (16 * value + d) }
      else q.addUnit upper (16 * value + d)
  | .lower upper => if c = '\\' then some { q with state := .letter (some upper) } else none

def run (q : Quoted) (t : Text) : Option Quoted := t.foldlM step q

@[simp] theorem run_nil (q : Quoted) : q.run [] = some q := rfl

@[simp] theorem run_cons (q : Quoted) (c : Char) (t : Text) :
    q.run (c :: t) = (q.step c).bind fun q => q.run t := rfl

theorem run_append (q : Quoted) (s t : Text) :
    q.run (s ++ t) = (q.run s).bind fun q => q.run t := by
  simp only [run, List.foldlM_append]
  rfl

/-! ### Escapes are undone -/

lemma step_digit (t : Text) (upper : Option Nat) (count value : Nat) {d : Nat} (h : d < 16) :
    step ⟨t, .digit upper count value⟩ d.digitChar =
      if count < 3 then some ⟨t, .digit upper (count + 1) (16 * value + d)⟩
      else addUnit ⟨t, .digit upper count value⟩ upper (16 * value + d) := by
  simp only [step, hexDigit?_digitChar h]

/-- A unit is read as it is written, whatever was before it. -/
lemma run_escapeUnit (t : Text) (upper : Option Nat) {n : Nat} (h : n < 0x10000) :
    run ⟨t, upper.elim .plain .lower⟩ (escapeUnit n) = addUnit ⟨t, .plain⟩ upper n := by
  have hletter : step ⟨t, upper.elim .plain .lower⟩ '\\' = some ⟨t, .letter upper⟩ := by
    cases upper <;> rfl
  have hdigits : step ⟨t, .letter upper⟩ 'u' = some ⟨t, .digit upper 0 0⟩ := rfl
  have hvalue : 16 * (16 * (16 * (16 * 0 + n / 16 / 16 / 16) + n / 16 / 16 % 16) + n / 16 % 16) +
      n % 16 = n := by
    omega
  rw [escapeUnit, Text.hex_four h]
  simp only [run_cons, run_nil, hletter, hdigits, Option.bind_some,
    step_digit _ _ _ _ (show n / 16 / 16 / 16 < 16 by omega),
    step_digit _ _ _ _ (Nat.mod_lt _ (show 0 < 16 by decide)), Nat.reduceLT, if_true, if_false,
    Nat.reduceAdd, hvalue]
  cases upper <;> simp only [addUnit, add, Option.bind_fun_some]

/-- **Every character is read back** from what is printed for it. -/
lemma run_escape (t : Text) (c : Char) : run ⟨t, .plain⟩ (escape c) = some ⟨t ++ [c], .plain⟩ := by
  have hescapes := escapes_escape c
  generalize escape c = e at hescapes ⊢
  cases hescapes with
  | @letter l h =>
    have hu : l ≠ 'u' := by
      rintro rfl
      cases h
    have hletter : step ⟨t, .letter none⟩ l = some ⟨t ++ [c], .plain⟩ := by
      simp only [step, if_neg hu, if_true, h]
      rfl
    simp only [run_cons, run_nil, hletter, Option.bind_some,
      show step ⟨t, .plain⟩ '\\' = some ⟨t, .letter none⟩ from rfl]
  | plain hquote hslash hlow hhigh =>
    have hplain : ¬ (c = '"' ∨ c.toNat < 0x20) := not_or.mpr ⟨hquote, Nat.not_lt.mpr hlow⟩
    simp only [run_cons, run_nil, step, if_neg hslash, if_neg hplain, add, Option.bind_some]
  | unit h =>
    -- a character is no surrogate
    have hvalid : c.toNat < 0xD800 ∨ 0xDFFF < c.toNat ∧ c.toNat < 0x110000 := c.valid
    rw [show (⟨t, .plain⟩ : Quoted) = ⟨t, (none : Option Nat).elim .plain .lower⟩ from rfl,
      run_escapeUnit t none h]
    simp only [addUnit, add]
    rw [if_neg (by omega), if_neg (by omega), Char.ofNat_toNat]
  | pair h =>
    have hvalid : c.toNat < 0xD800 ∨ 0xDFFF < c.toNat ∧ c.toNat < 0x110000 := c.valid
    obtain ⟨n, hn⟩ := Nat.exists_eq_add_of_le h
    rw [hn, Nat.add_sub_cancel_left]
    have hupper : 0xD800 ≤ 0xD800 + n / 0x400 ∧ 0xD800 + n / 0x400 < 0xDC00 := by omega
    have hlower : 0xDC00 ≤ 0xDC00 + n % 0x400 ∧ 0xDC00 + n % 0x400 < 0xE000 := by omega
    have hboth : 0x10000 + (0xD800 + n / 0x400 - 0xD800) * 0x400 + (0xDC00 + n % 0x400 - 0xDC00) =
        c.toNat := by
      omega
    rw [run_append, show (⟨t, .plain⟩ : Quoted) = ⟨t, (none : Option Nat).elim .plain .lower⟩
      from rfl, run_escapeUnit t none (by omega)]
    simp only [addUnit, if_pos hupper, Option.bind_some]
    rw [show Quoting.lower (0xD800 + n / 0x400) =
      (some (0xD800 + n / 0x400)).elim .plain .lower from rfl, run_escapeUnit t _ (by omega)]
    simp only [addUnit, if_pos hlower, add, hboth, Char.ofNat_toNat]

lemma run_escapes (t s : Text) :
    run ⟨t, .plain⟩ (s.flatMap escape) = some ⟨t ++ s, .plain⟩ := by
  induction s generalizing t with
  | nil => rw [List.append_nil]; rfl
  | cons c s ih =>
    rw [List.flatMap_cons, run_append, run_escape, Option.bind_some, ih, List.append_assoc]
    rfl

end Quoted

/-! ### Escapes are plain ASCII -/

lemma toNat_lt_of_mem_escapeUnit {n : Nat} (h : n < 0x10000) {x : Char} (hx : x ∈ escapeUnit n) :
    x.toNat < 0x80 := by
  have hdigit : ∀ d < 16, d.digitChar.toNat < 0x80 := by decide
  rw [escapeUnit, Text.hex_four h] at hx
  simp only [List.mem_cons, List.not_mem_nil, or_false] at hx
  rcases hx with rfl | rfl | rfl | rfl | rfl | rfl
  · decide
  · decide
  · exact hdigit _ (by omega)
  all_goals exact hdigit _ (Nat.mod_lt _ (by decide))

lemma toNat_lt_of_mem_escape {c x : Char} (hx : x ∈ escape c) : x.toNat < 0x80 := by
  have hescapes := escapes_escape c
  generalize escape c = e at hescapes hx
  cases hescapes with
  | @letter l h =>
    have hl : l.toNat < 0x80 := by
      unfold letter? at h
      split at h
      all_goals first | cases h; done | decide
    rcases List.mem_cons.mp hx with rfl | hx
    · decide
    · rwa [List.mem_singleton.mp hx]
  | plain quote slash low high =>
    rw [List.mem_singleton.mp hx]
    omega
  | unit h => exact toNat_lt_of_mem_escapeUnit h hx
  | pair h =>
    have hvalid : c.toNat < 0xD800 ∨ 0xDFFF < c.toNat ∧ c.toNat < 0x110000 := c.valid
    rcases List.mem_append.mp hx with hx | hx
    · exact toNat_lt_of_mem_escapeUnit (by omega) hx
    · exact toNat_lt_of_mem_escapeUnit (by omega) hx

end Json

end Cutscene
