import Cutscene.Proofs.Blocks
import Cutscene.Proofs.ReadBack

/-!
How a command and its fields are written.

What is read from a line can be told from its characters alone. A command is slashes, blanks if
there are any, its token and its arguments. A numeral is blanks, a sign or none, and all digits up
to a character that is none. A text is what stands between one separating character and the first
carriage return. The readers find whatever is written in this way, and nothing else.
-/

namespace Cutscene

/-! ### Numerals -/

namespace Numeral

/-- The ways to write a sign. -/
inductive Sign : Bool → Text → Prop
  | none : Sign false []
  | plus : Sign false ['+']
  | minus : Sign true ['-']

/-- The text is blanks, the numeral and the rest, and the numeral has all digits up to the rest. -/
inductive Leads (n : Numeral) (rest : Text) : Text → Prop
  | intro {blanks sign : Text} (blank : ∀ c ∈ blanks, Text.isBlank c = true)
      (signed : Sign n.negative sign) (ne_nil : n.digits ≠ [])
      (digits : ∀ c ∈ n.digits, c.isDigit = true) (ends : rest.EndsNumber) :
      Leads n rest (blanks ++ (sign ++ (n.digits ++ rest)))

/-- No numeral is at the start of the text. -/
def Absent (t : Text) : Prop := ∀ (n : Numeral) (rest : Text), ¬ n.Leads rest t

lemma exists_sign (t : Text) : ∃ s, Sign (sign t).1 s ∧ t = s ++ (sign t).2 := by
  unfold sign
  split
  · exact ⟨['-'], .minus, rfl⟩
  · exact ⟨['+'], .plus, rfl⟩
  · exact ⟨[], .none, rfl⟩

/-- A sign is told from the digits after it. -/
lemma sign_append {negative : Bool} {s ds : Text} (hs : Sign negative s) (hne : ds ≠ [])
    (hd : ∀ c ∈ ds, c.isDigit = true) (rest : Text) :
    sign (s ++ (ds ++ rest)) = (negative, ds ++ rest) := by
  cases hs with
  | none =>
    obtain ⟨c, ds, rfl⟩ := List.exists_cons_of_ne_nil hne
    exact sign_of_isDigit (hd c List.mem_cons_self) _
  | plus | minus => rfl

/-- A numeral starts with a visible character. -/
lemma isBlank_head?_signed {negative : Bool} {s ds : Text} (hs : Sign negative s) (hne : ds ≠ [])
    (hd : ∀ c ∈ ds, c.isDigit = true) (rest : Text) :
    ∀ c ∈ (s ++ (ds ++ rest)).head?, Text.isBlank c = false := by
  cases hs with
  | none =>
    obtain ⟨c, ds, rfl⟩ := List.exists_cons_of_ne_nil hne
    rintro _ ⟨⟩
    exact Text.not_isBlank_of_isDigit (hd c List.mem_cons_self)
  | plus | minus =>
    rintro _ ⟨⟩
    rfl

/-- **A numeral is found where it is written**, and nowhere else. -/
lemma scan?_dropBlanks_eq_some_iff {t rest : Text} {n : Numeral} :
    scan? (Text.dropBlanks t) = some (n, rest) ↔ n.Leads rest t := by
  constructor
  · intro h
    obtain ⟨s, hs, hsplit⟩ := exists_sign (Text.dropBlanks t)
    unfold scan? at h
    dsimp only at h
    split at h
    · cases h
    · rename_i hne
      cases h
      have hbody := List.takeWhile_append_dropWhile (p := Char.isDigit)
        (l := (sign (Text.dropBlanks t)).2)
      have ht : t = t.takeWhile Text.isBlank ++ (s ++
          ((sign (Text.dropBlanks t)).2.takeWhile Char.isDigit ++
            (sign (Text.dropBlanks t)).2.dropWhile Char.isDigit)) := by
        rw [hbody, ← hsplit, Text.takeWhile_isBlank_append_dropBlanks]
      conv_rhs => rw [ht]
      exact .intro (fun c hc => List.mem_takeWhile_imp hc) hs hne
        (fun c hc => List.mem_takeWhile_imp hc) Text.head?_dropWhile
  · rintro ⟨blank, signed, hne, digits, ends⟩
    rw [Text.dropBlanks_append blank (isBlank_head?_signed signed hne digits rest)]
    exact scan?_of_sign (sign_append signed hne digits rest) hne digits ends

lemma scan?_dropBlanks_eq_none_iff {t : Text} : scan? (Text.dropBlanks t) = none ↔ Absent t := by
  rw [Option.eq_none_iff_forall_ne_some]
  simp only [Absent, ne_eq, scan?_dropBlanks_eq_some_iff, Prod.forall]

lemma Leads.isDigit {t rest : Text} {n : Numeral} (h : n.Leads rest t) :
    ∀ c ∈ n.digits, c.isDigit = true := by
  cases h with
  | intro _ _ _ digits => exact digits

/-- The text is a piece with the numeral, and the rest. -/
lemma Leads.exists_piece {t rest : Text} {n : Numeral} (h : n.Leads rest t) :
    ∃ piece, t = piece ++ rest ∧ n.digits <:+: piece := by
  cases h with
  | @intro blanks sign =>
    exact ⟨blanks ++ (sign ++ n.digits), by simp, blanks ++ sign, [], by simp⟩

lemma Leads.length_lt {t rest : Text} {n : Numeral} (h : n.Leads rest t) :
    rest.length < t.length := by
  cases h with
  | intro _ _ ne_nil =>
    have := List.length_pos_of_ne_nil ne_nil
    simp only [List.length_append]
    omega

/-- Only one numeral leads a text. -/
lemma Leads.unique {t rest rest' : Text} {n n' : Numeral} (h : n.Leads rest t)
    (h' : n'.Leads rest' t) : n' = n ∧ rest' = rest := by
  rw [← scan?_dropBlanks_eq_some_iff] at h h'
  simpa using h'.symm.trans h

lemma read_of_length {n : Numeral} (h : n.digits.length ≤ digitLimit) : n.read = .ok n.value := by
  rw [read, if_neg (by simpa [tooLong] using h)]
  rfl

lemma read_of_lt_length {n : Numeral} (h : digitLimit < n.digits.length) :
    n.read = .error (.numeralTooLong n.digits.length) := by
  rw [read, if_pos (by simpa [tooLong] using h)]
  rfl

end Numeral

namespace Text

/-- A text that a numeral leads is read as that numeral. -/
lemma leadingInt_of_leads {t rest : Text} {n : Numeral} (h : n.Leads rest t) :
    leadingInt t = some <$> n.read := by
  rw [leadingInt, Numeral.leading?, Numeral.scan?_dropBlanks_eq_some_iff.mpr h]
  rfl

lemma leadingInt_of_absent {t : Text} (h : Numeral.Absent t) : leadingInt t = .ok none := by
  rw [leadingInt, Numeral.leading?, Numeral.scan?_dropBlanks_eq_none_iff.mpr h]
  rfl

/-! ### Arguments -/

/-- The text after one separating character, up to the first carriage return. -/
def payload (t : Text) : Text := (t.drop 1).takeWhile (· ≠ '\r')

lemma head?_dropSlashes (t : Text) : ∀ c ∈ (dropSlashes t).head?, c ≠ '/' :=
  fun c hc => by simpa using head?_dropWhile c hc

end Text

namespace Arguments

variable {t rest : Text} {n : Numeral}

lemma int_ofText_of_leads (h : n.Leads rest t) : (ofText t).int = (n.read, ofText rest) := by
  rw [int, if_neg (by simp [ofText])]
  simp only [ofText, Numeral.scan?_dropBlanks_eq_some_iff.mpr h]

lemma int_ofText_of_absent (h : Numeral.Absent t) :
    (ofText t).int = (.ok 0, ⟨Text.dropBlanks t, true⟩) := by
  rw [int, if_neg (by simp [ofText])]
  simp only [ofText, Numeral.scan?_dropBlanks_eq_none_iff.mpr h]

/-- **A read of an integer** takes the numeral that leads the text, or fails. -/
lemma int_ofText_cases (t : Text) :
    (∃ (n : Numeral) (rest : Text), n.Leads rest t ∧ (ofText t).int = (n.read, ofText rest)) ∨
      Numeral.Absent t ∧ (ofText t).int = (.ok 0, ⟨Text.dropBlanks t, true⟩) := by
  by_cases h : Numeral.Absent t
  · exact .inr ⟨h, int_ofText_of_absent h⟩
  · simp only [Numeral.Absent, not_forall, not_not] at h
    obtain ⟨n, rest, hleads⟩ := h
    exact .inl ⟨n, rest, hleads, int_ofText_of_leads hleads⟩

lemma text_ofText (t : Text) : (ofText t).text.1 = t.payload := by
  cases t <;> rfl

end Arguments

/-! ### Commands -/

namespace Command

/-- How a command stands on a line: without the blanks around it, the line is two slashes or more,
blanks if there are any, the token and the arguments. A word ends at a blank, and a line of mere
slashes has neither a token nor arguments. -/
structure StandsOn (c : Command) (t : Text) : Prop where
  written : ∃ (n : Nat) (gap : Text), (∀ x ∈ gap, Text.isBlank x = true) ∧
    (∀ x ∈ (gap ++ (c.token ++ c.arguments)).head?, x ≠ '/') ∧
    Text.trim t = List.replicate (n + 2) '/' ++ (gap ++ (c.token ++ c.arguments))
  token : ∀ x ∈ c.token, Text.isBlank x = false
  arguments : ∀ x ∈ c.arguments.head?, Text.isBlank x = true
  nil : c.token = [] → c.arguments = []

/-- The arguments of a command that has a meaning can be read. -/
lemma unread_of_keyword? {c : Command} {k : Keyword} (h : c.keyword? = some k) :
    c.unread = .ofText c.arguments := by
  have htoken : c.token = k.token := keyword?_eq_some_iff.mp h
  rw [unread, htoken, List.isEmpty_eq_false_iff.mpr k.token_isWord.ne_nil]
  rfl

lemma isCommand_iff {t : Text} : isCommand t = true ↔ ['/', '/'] <+: Text.trim t :=
  List.isPrefixOf_iff_prefix

/-- Two slashes or more are told from what comes after them. -/
lemma exists_slashes {t : Text} (h : ['/', '/'] <+: t) :
    ∃ n, t = List.replicate (n + 2) '/' ++ Text.dropSlashes t := by
  obtain ⟨rest, rfl⟩ := h
  have hslashes : rest.takeWhile (· = '/') =
      List.replicate (rest.takeWhile (· = '/')).length '/' :=
    List.eq_replicate_of_mem fun c hc => by
      simpa using List.mem_takeWhile_imp hc
  have hsplit : rest.takeWhile (· = '/') ++ Text.dropSlashes rest = rest :=
    List.takeWhile_append_dropWhile
  have hdrop : Text.dropSlashes (['/', '/'] ++ rest) = Text.dropSlashes rest := rfl
  refine ⟨(rest.takeWhile (· = '/')).length, ?_⟩
  rw [hdrop, List.replicate_succ, List.replicate_succ, ← hslashes]
  exact congrArg (fun u => '/' :: '/' :: u) hsplit.symm

variable {line : Int} {t : Text} {c : Command}

lemma standsOn_of_ofLine? (h : ofLine? line t = some c) : c.StandsOn t := by
  unfold ofLine? at h
  split at h
  · rename_i hcommand
    cases h
    obtain ⟨n, hslashes⟩ := exists_slashes (isCommand_iff.mp hcommand)
    have hfresh := Text.head?_dropSlashes (Text.trim t)
    generalize Text.dropSlashes (Text.trim t) = body at hslashes hfresh
    have hbody : body.takeWhile Text.isBlank ++ (Text.word (Text.dropBlanks body) ++
        Text.afterWord (Text.dropBlanks body)) = body := by
      rw [Text.word_append_afterWord, Text.takeWhile_isBlank_append_dropBlanks]
    refine ⟨⟨n, body.takeWhile Text.isBlank, ?_, ?_, ?_⟩, ?_, ?_, ?_⟩
    · exact fun x hx => List.mem_takeWhile_imp hx
    · rwa [hbody]
    · rw [hbody, ← hslashes]
    · exact fun x hx => Text.not_isBlank_of_mem_word hx
    · exact Text.isBlank_head?_afterWord _
    · intro htoken
      dsimp only at htoken ⊢
      rw [Text.word_dropBlanks_eq_nil_iff.mp htoken]
      rfl
  · cases h

lemma ofLine?_of_standsOn (h : c.StandsOn t) : ofLine? c.line t = some c := by
  obtain ⟨⟨n, gap, hgap, hfresh, htrim⟩, htoken, harguments, hnil⟩ := h
  have hcommand : isCommand t = true := by
    rw [isCommand_iff, htrim, List.replicate_succ, List.replicate_succ]
    exact ⟨_, rfl⟩
  have hslashes : Text.dropSlashes (Text.trim t) = gap ++ (c.token ++ c.arguments) := by
    rw [htrim]
    refine Text.dropWhile_append (fun x hx => ?_) fun x hx => ?_
    · simp [List.eq_of_mem_replicate hx]
    · simpa using hfresh x hx
  have hblanks : Text.dropBlanks (gap ++ (c.token ++ c.arguments)) = c.token ++ c.arguments := by
    refine Text.dropBlanks_append hgap fun x hx => ?_
    rcases hc : c.token with _ | ⟨y, w⟩
    · rw [hc, hnil hc] at hx
      cases hx
    · rw [hc] at hx
      obtain rfl : y = x := Option.some.inj hx
      exact htoken y (hc ▸ List.mem_cons_self)
  rw [ofLine?, if_pos hcommand, hslashes]
  dsimp only
  rw [hblanks, Text.word_append htoken harguments, Text.afterWord_append htoken harguments]

/-- **A command is found on the lines on which it stands**, and on no others. -/
lemma ofLine?_eq_some_iff : ofLine? line t = some c ↔ c.line = line ∧ c.StandsOn t := by
  constructor
  · intro h
    exact ⟨line_of_ofLine? h, standsOn_of_ofLine? h⟩
  · rintro ⟨rfl, h⟩
    exact ofLine?_of_standsOn h

lemma ofLine?_eq_none_iff : ofLine? line t = none ↔ ¬ ['/', '/'] <+: Text.trim t := by
  rw [← isCommand_iff]
  unfold ofLine?
  split <;> simp_all

end Command

end Cutscene
