import Cutscene.Proofs.Fields

/-!
What reading arguments takes from the text.

Each read that succeeds takes one piece of the text, from where the last one ended: a numeral, a
word or a text, with what stands before it. So the pieces lie side by side and leave no gap. The
first read that fails is followed by failures only, which take nothing more.
-/

namespace Cutscene.Arguments

/-- What a field gives that cannot be read. -/
def Field.missing : Field → Value
  | .int => .number 0
  | .word | .text => .text []

/-- A piece of a text on which a field stands, before the rest: its value, and that the piece goes
as far as it can. -/
inductive Field.Piece : Field → Except Fault Value → Text → Text → Prop
  | int {n : Numeral} {piece rest : Text} (leads : n.Leads rest (piece ++ rest))
      (short : n.digits.length ≤ digitLimit) : Piece .int (.ok (.number n.value)) piece rest
  | longInt {n : Numeral} {piece rest : Text} (leads : n.Leads rest (piece ++ rest))
      (long : digitLimit < n.digits.length) :
      Piece .int (.error (.numeralTooLong n.digits.length)) piece rest
  | word {blanks w rest : Text} (blank : ∀ c ∈ blanks, Text.isBlank c = true) (ne_nil : w ≠ [])
      (visible : ∀ c ∈ w, Text.isBlank c = false)
      (ends : ∀ c ∈ rest.head?, Text.isBlank c = true) :
      Piece .word (.ok (.text w)) (blanks ++ w) rest
  | text {separator : Char} {t rest : Text} (fresh : '\r' ∉ t) (ends : ∀ c ∈ rest.head?, c = '\r') :
      Piece .text (.ok (.text t)) (separator :: t) rest

/-- One read, and the piece of the text that it takes, if it succeeds. -/
inductive Reads (a : Arguments) (f : Field) : Option Text → Prop
  | takes {piece : Text} (before : a.failed = false) (split : a.rest = piece ++ (a.read f).2.rest)
      (field : f.Piece (a.read f).1 piece (a.read f).2.rest)
      (after : (a.read f).2.failed = false) : Reads a f (some piece)
  /-- The first failure: there is no such field. Blanks may have been skipped to look for it. -/
  | fails (before : a.failed = false)
      (absent : ∀ v piece rest, a.rest = piece ++ rest → ¬ f.Piece v piece rest)
      (value : (a.read f).1 = .ok f.missing) (skipped : (a.read f).2.rest <:+ a.rest)
      (after : (a.read f).2.failed = true) : Reads a f none
  /-- Any later failure. -/
  | still (before : a.failed = true) (value : (a.read f).1 = .ok f.missing)
      (same : (a.read f).2 = a) : Reads a f none

variable {a : Arguments} {f : Field}

/-! ### One read -/

lemma read_of_failed (h : a.failed = true) (f : Field) : a.read f = (.ok f.missing, a) := by
  cases f with
  | int => rw [read, int_of_failed h]; rfl
  | word => rw [read, word_of_failed h]; rfl
  | text => rw [read, text_of_failed h]; rfl

lemma reads_of_failed (h : a.failed = true) (f : Field) : a.Reads f none := by
  have hread := read_of_failed h f
  exact .still h (by rw [hread]) (by rw [hread])

lemma exists_reads_int (t : Text) : ∃ piece, (ofText t).Reads .int piece := by
  obtain ⟨n, rest, hleads, hint⟩ | ⟨habsent, hint⟩ := int_ofText_cases t
  · obtain ⟨piece, rfl, -⟩ := hleads.exists_piece
    have hread : (ofText (piece ++ rest)).read .int = (.number <$> n.read, ofText rest) := by
      rw [read, hint]
    refine ⟨some piece, .takes rfl ?_ ?_ ?_⟩ <;> rw [hread]
    · rfl
    · by_cases hlength : n.digits.length ≤ digitLimit
      · rw [Numeral.read_of_length hlength]
        exact .int hleads hlength
      · rw [Numeral.read_of_lt_length (not_le.mp hlength)]
        exact .longInt hleads (not_le.mp hlength)
    · rfl
  · have hread : (ofText t).read .int = (.ok (.number 0), ⟨Text.dropBlanks t, true⟩) := by
      rw [read, hint]
      rfl
    refine ⟨none, .fails rfl ?_ ?_ ?_ ?_⟩
    · intro v piece rest hsplit hpiece
      have hsplit : t = piece ++ rest := hsplit
      cases hpiece with
      | int leads => exact habsent _ _ (hsplit ▸ leads)
      | longInt leads => exact habsent _ _ (hsplit ▸ leads)
    · rw [hread]
      rfl
    · rw [hread]
      exact List.dropWhile_suffix _
    · rw [hread]

lemma exists_reads_word (t : Text) : ∃ piece, (ofText t).Reads .word piece := by
  have hblank : ∀ c ∈ t.takeWhile Text.isBlank, Text.isBlank c = true :=
    fun c hc => List.mem_takeWhile_imp hc
  have ht := Text.takeWhile_isBlank_append_dropBlanks t
  have hrest := Text.word_append_afterWord (Text.dropBlanks t)
  have hread : (ofText t).read .word = (.ok (.text (Text.word (Text.dropBlanks t))),
      ⟨Text.afterWord (Text.dropBlanks t), (Text.word (Text.dropBlanks t)).isEmpty⟩) := rfl
  by_cases hnil : Text.word (Text.dropBlanks t) = []
  · have hall : ∀ c ∈ t, Text.isBlank c = true :=
      List.dropWhile_eq_nil_iff.mp (Text.word_dropBlanks_eq_nil_iff.mp hnil)
    refine ⟨none, .fails rfl ?_ ?_ ?_ ?_⟩
    · intro v piece rest hsplit hpiece
      have hsplit : t = piece ++ rest := hsplit
      cases hpiece with
      | @word blanks w _ blank ne_nil visible =>
        obtain ⟨c, w, rfl⟩ := List.exists_cons_of_ne_nil ne_nil
        have hc := hall c (by simp [hsplit])
        rw [visible c List.mem_cons_self] at hc
        cases hc
    · rw [hread, hnil]
      rfl
    · rw [hread]
      exact (List.dropWhile_suffix _).trans (List.dropWhile_suffix _)
    · rw [hread, hnil]
      rfl
  · refine ⟨some (t.takeWhile Text.isBlank ++ Text.word (Text.dropBlanks t)), .takes rfl ?_ ?_ ?_⟩
      <;> rw [hread]
    · rw [List.append_assoc, hrest, ht]
      rfl
    · exact .word hblank hnil (fun c hc => Text.not_isBlank_of_mem_word hc)
        (Text.isBlank_head?_afterWord _)
    · simpa using hnil

lemma exists_reads_text (t : Text) : ∃ piece, (ofText t).Reads .text piece := by
  cases t with
  | nil =>
    refine ⟨none, .fails rfl ?_ rfl List.suffix_rfl rfl⟩
    intro v piece rest hsplit hpiece
    cases hpiece
    cases hsplit
  | cons separator t =>
    refine ⟨some (separator :: t.takeWhile (· ≠ '\r')), .takes rfl ?_ ?_ rfl⟩
    · exact congrArg _ List.takeWhile_append_dropWhile.symm
    · refine .text (fun h => ?_) fun c hc => ?_
      · simpa using List.mem_takeWhile_imp h
      · simpa using Text.head?_dropWhile c hc

/-- **One read** takes a piece, or fails because there is none. -/
lemma exists_reads (a : Arguments) (f : Field) : ∃ piece, a.Reads f piece := by
  obtain ⟨t, failed⟩ := a
  cases failed with
  | true => exact ⟨none, reads_of_failed rfl f⟩
  | false =>
    cases f with
    | int => exact exists_reads_int t
    | word => exact exists_reads_word t
    | text => exact exists_reads_text t

/-- What is left to read is the end of what was left before. -/
lemma Reads.suffix {piece : Option Text} (h : a.Reads f piece) : (a.read f).2.rest <:+ a.rest := by
  cases h with
  | takes before split => exact ⟨_, split.symm⟩
  | fails before absent value skipped => exact skipped
  | still before value same => rw [same]

/-! ### Any number of reads -/

/-- What is left after reading some fields. -/
def after (a : Arguments) (fs : List Field) : Arguments := fs.foldl (fun a f => (a.read f).2) a

@[simp] lemma after_nil (a : Arguments) : a.after [] = a := rfl

@[simp] lemma after_cons (a : Arguments) (f : Field) (fs : List Field) :
    a.after (f :: fs) = (a.read f).2.after fs := rfl

lemma after_append (a : Arguments) (fs gs : List Field) :
    a.after (fs ++ gs) = (a.after fs).after gs := by
  simp [after, List.foldl_append]

lemma getElem?_readAll (a : Arguments) (fs : List Field) (k : Nat) :
    (a.readAll fs)[k]? = fs[k]?.map (a.after (fs.take k)).read := by
  induction fs generalizing a k with
  | nil => rfl
  | cons f fs ih =>
    cases k with
    | zero => rfl
    | succ k => exact ih (a.read f).2 k

lemma rest_after_suffix (a : Arguments) (fs : List Field) : (a.after fs).rest <:+ a.rest := by
  induction fs generalizing a with
  | nil => exact List.suffix_rfl
  | cons f fs ih =>
    obtain ⟨piece, hpiece⟩ := exists_reads a f
    exact (ih _).trans hpiece.suffix

lemma after_of_failed (h : a.failed = true) (fs : List Field) : a.after fs = a := by
  induction fs with
  | nil => rfl
  | cons f fs ih => rw [after_cons, read_of_failed h, ih]

/-- **A run of reads** takes piece after piece until it fails. -/
lemma exists_pieces {a : Arguments} (ha : a.failed = false) (fs : List Field) :
    ∃ pieces : List Text, pieces.length ≤ fs.length ∧
      (∀ k f, fs[k]? = some f → (a.after (fs.take k)).Reads f pieces[k]?) ∧
      (∀ k ≤ fs.length, (a.after (fs.take k)).failed = false ↔ k ≤ pieces.length) ∧
      ∀ k ≤ pieces.length, a.rest = (pieces.take k).flatten ++ (a.after (fs.take k)).rest := by
  induction fs generalizing a with
  | nil => exact ⟨[], by simp, by simp, by simp [ha], by simp⟩
  | cons f fs ih =>
    obtain ⟨piece, hpiece⟩ := exists_reads a f
    rcases piece with _ | piece
    · -- the first read fails, and so do all others
      have hafter : (a.read f).2.failed = true := by
        cases hpiece with
        | fails _ _ _ _ after => exact after
        | still before => rw [ha] at before; cases before
      refine ⟨[], Nat.zero_le _, ?_, ?_, ?_⟩
      · rintro (_ | k) g hg
        · obtain rfl : f = g := Option.some.inj hg
          exact hpiece
        · rw [List.take_succ_cons, after_cons, after_of_failed hafter]
          exact reads_of_failed hafter g
      · rintro (_ | k) -
        · simp [ha]
        · simp [after_of_failed hafter, hafter]
      · rintro (_ | k) hk
        · rfl
        · cases hk
    · cases id hpiece with
      | takes before split field after =>
        obtain ⟨pieces, hle, hreads, hfailed, hsplit⟩ := ih after
        refine ⟨piece :: pieces, Nat.succ_le_succ hle, ?_, ?_, ?_⟩
        · rintro (_ | k) g hg
          · obtain rfl : f = g := Option.some.inj hg
            exact hpiece
          · exact hreads k g hg
        · rintro (_ | k) hk
          · simp [ha]
          · simpa using hfailed k (Nat.le_of_succ_le_succ hk)
        · rintro (_ | k) hk
          · rfl
          · have := hsplit k (Nat.le_of_succ_le_succ hk)
            rw [List.take_succ_cons, List.take_succ_cons, List.flatten_cons, after_cons,
              List.append_assoc, ← this, split]

/-- The number of characters before what is left. -/
def offsetIn (t : Text) (a : Arguments) : Nat := t.length - a.rest.length

lemma offsetIn_of_suffix {t : Text} (h : a.rest <:+ t) :
    t.drop (a.offsetIn t) = a.rest ∧ a.offsetIn t ≤ t.length := by
  obtain ⟨passed, rfl⟩ := h
  simp [offsetIn]

/-- **Reading tiles the text.** Read any fields from a text, one after another. The reads that
succeed are the first ones, and each of them takes one piece of the text from where it stands:
blanks and a signed run of digits, blanks and a word, or one character and all characters up to a
carriage return. The piece goes as far as it can, and the value is what stands on it; a run of
digits that is too long is taken like any other, but gives an error. Put together, the pieces are
the text up to the offset. The first read that fails finds no such piece; it and all later ones
give zero or an empty text, and the later ones leave everything as it is. The offset never goes
back and never leaves the text. -/
theorem reading_tiles (t : Text) (fs : List Field) :
    let before (k : Nat) : Arguments := (ofText t).after (fs.take k)
    ∃ pieces : List Text, pieces.length ≤ fs.length ∧
      (∀ k f, fs[k]? = some f →
        ((ofText t).readAll fs)[k]? = some ((before k).read f) ∧
          before (k + 1) = ((before k).read f).2 ∧ (before k).Reads f pieces[k]?) ∧
      ∀ k ≤ fs.length,
        ((before k).failed = false ↔ k ≤ pieces.length) ∧
        (k ≤ pieces.length → t.take ((before k).offsetIn t) = (pieces.take k).flatten) ∧
        t.drop ((before k).offsetIn t) = (before k).rest ∧ (before k).offsetIn t ≤ t.length ∧
        ∀ m ≤ k, (before m).offsetIn t ≤ (before k).offsetIn t := by
  intro before
  obtain ⟨pieces, hle, hreads, hfailed, hsplit⟩ := exists_pieces (a := ofText t) rfl fs
  refine ⟨pieces, hle, fun k f hf => ⟨?_, ?_, hreads k f hf⟩, fun k hk => ?_⟩
  · rw [getElem?_readAll, hf]
    rfl
  · rw [show before (k + 1) = (ofText t).after (fs.take (k + 1)) from rfl, List.take_add_one, hf,
      after_append]
    rfl
  · obtain ⟨hdrop, hlength⟩ := offsetIn_of_suffix (rest_after_suffix (ofText t) (fs.take k))
    refine ⟨hfailed k hk, fun hpieces => ?_, hdrop, hlength, fun m hm => ?_⟩
    · have ht : t = (pieces.take k).flatten ++ t.drop ((before k).offsetIn t) :=
        (hsplit k hpieces).trans (congrArg _ hdrop.symm)
      exact List.append_cancel_right ((List.take_append_drop _ t).trans ht)
    · have hlater : before k = (before m).after ((fs.take k).drop m) := by
        have hm' : fs.take m = (fs.take k).take m := by rw [List.take_take, Nat.min_eq_left hm]
        rw [← after_append, hm', List.take_append_drop]
      have := (rest_after_suffix (before m) ((fs.take k).drop m)).length_le
      rw [← hlater] at this
      exact Nat.sub_le_sub_left this _

/-- A text may be empty after its separator. Once nothing is left there is not even a separator. -/
example : (ofText "  12ab\r".toList).readAll [.int, .word, .text, .text] =
    [(.ok (.number 12), ⟨"ab\r".toList, false⟩), (.ok (.text "ab".toList), ⟨"\r".toList, false⟩),
      (.ok (.text []), ⟨[], false⟩), (.ok (.text []), ⟨[], true⟩)] := by
  decide

end Cutscene.Arguments
