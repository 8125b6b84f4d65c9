import Cutscene.Proofs.Blocks
import Cutscene.Proofs.Location

/-!
How far reading gets.

A position counts the characters before it, and some characters are left after it. What is read goes
from the one to the other, and nothing else changes. A command takes its line, a construct that is
read to its end takes its end marker, and a block takes at least the seven characters without which
it is none: a letter, a blank and the end marker.
-/

namespace Cutscene

namespace Cursor

/-- The characters that are left to read, line breaks included. -/
def remaining (c : Cursor) : Nat := c.current.length + (c.below.map fun t => t.length + 1).sum

/-- The second position is so many characters further on, and has as many fewer left. -/
structure FurtherBy (n : Nat) (c d : Cursor) : Prop where
  offset : d.offset = c.offset + n
  remaining : c.remaining = d.remaining + n

variable {c d e : Cursor} {m n : Nat}

lemma FurtherBy.refl (c : Cursor) : FurtherBy 0 c c := ⟨rfl, rfl⟩

lemma FurtherBy.trans (h : FurtherBy m c d) (h' : FurtherBy n d e) : FurtherBy (m + n) c e where
  offset := by rw [h'.offset, h.offset, Nat.add_assoc]
  remaining := by
    have := h.remaining
    have := h'.remaining
    omega

lemma FurtherBy.le_offset (h : FurtherBy n c d) : c.offset ≤ d.offset := by
  have := h.offset
  omega

lemma FurtherBy.lt_offset (h : FurtherBy n c d) (hn : 0 < n) : c.offset < d.offset := by
  have := h.offset
  omega

lemma remaining_eq_zero_iff : c.remaining = 0 ↔ c.atEnd = true := by
  obtain ⟨current, below, offset, line⟩ := c
  cases current <;> cases below <;> simp [remaining, atEnd]

lemma length_intercalate (t : Text) (ts : List Text) :
    (['\n'].intercalate (t :: ts)).length = t.length + (ts.map fun u => u.length + 1).sum := by
  induction ts generalizing t with
  | nil => simp
  | cons u us ih =>
    rw [List.intercalate_cons_cons, List.length_append, List.length_append, ih, List.map_cons,
      List.sum_cons, List.length_singleton]
    omega

/-- At the start of a text all of it is left. -/
lemma remaining_start (s : Text) : (start s).remaining = s.length := by
  obtain ⟨t, ts, hlines⟩ := List.exists_cons_of_ne_nil (Text.lines_ne_nil s)
  conv_rhs => rw [← Text.intercalate_lines s, hlines, length_intercalate]
  simp only [start, seek, List.drop_zero, hlines, onLines, remaining]

/-! ### Lines, blanks and words -/

/-- The next line is as many characters on as are left of this one, and a line break if there is
one. -/
lemma furtherBy_nextLine (c : Cursor) :
    ∃ n, FurtherBy n c c.nextLine ∧ c.current.length ≤ n ∧
      (c.nextLine.atEnd = true ∨ c.current.length < n) := by
  obtain ⟨current, below, offset, line⟩ := c
  cases below with
  | nil => exact ⟨current.length, ⟨rfl, by simp [nextLine, remaining]⟩, le_rfl, .inl rfl⟩
  | cons next below =>
    refine ⟨current.length + 1, ⟨rfl, ?_⟩, Nat.le_succ _, .inr (Nat.lt_succ_self _)⟩
    simp only [nextLine, remaining, List.map_cons, List.sum_cons]
    omega

lemma furtherBy_toEnd (c : Cursor) : ∃ n, FurtherBy n c c.toEnd := by
  obtain ⟨current, below, offset, line⟩ := c
  unfold toEnd
  induction below generalizing current offset line with
  | nil => exact ⟨current.length, ⟨rfl, by simp [endFrom, remaining]⟩⟩
  | cons next below ih =>
    obtain ⟨n, hn⟩ := ih next (offset + current.length + 1) (line + 1)
    refine ⟨current.length + 1 + n, FurtherBy.trans ⟨rfl, ?_⟩ hn⟩
    simp only [remaining, List.map_cons, List.sum_cons]
    omega

/-- Blanks are skipped if there are any: at the end of a line that is not the last there is a line
break at least. -/
lemma furtherBy_skipBlanks (c : Cursor) :
    ∃ n, FurtherBy n c c.skipBlanks ∧
      (n = 0 → c.atEnd = true ∨ ∃ ch ∈ c.current.head?, Text.isBlank ch = false) := by
  obtain ⟨current, below, offset, line⟩ := c
  unfold skipBlanks
  fun_induction skipFrom current below offset line with
  | case1 current offset line next below hblank ih =>
    obtain ⟨n, hn, -⟩ := ih
    refine ⟨current.length + 1 + n, FurtherBy.trans ⟨rfl, ?_⟩ hn, by omega⟩
    simp only [remaining, List.map_cons, List.sum_cons]
    omega
  | case2 current offset line below h =>
    have hlength := Text.length_dropBlanks current
    refine ⟨_, ⟨rfl, ?_⟩, fun hnone => ?_⟩
    · simp only [remaining]
      omega
    · cases current with
      | nil =>
        cases below with
        | nil => exact .inl rfl
        | cons next below => exact absurd rfl (h next below rfl)
      | cons ch t =>
        refine .inr ⟨ch, rfl, ?_⟩
        by_contra hch
        rw [Bool.not_eq_false] at hch
        rw [List.takeWhile_cons_of_pos hch] at hnone
        cases hnone

lemma furtherBy_word (c : Cursor) : ∃ n, FurtherBy n c c.word.2 ∧ c.word.1.length ≤ n := by
  obtain ⟨n, hn, -⟩ := c.furtherBy_skipBlanks
  have hword := congrArg List.length (Text.word_append_afterWord c.skipBlanks.current)
  rw [List.length_append] at hword
  refine ⟨n + c.word.1.length, hn.trans ⟨rfl, ?_⟩, Nat.le_add_left _ _⟩
  simp only [remaining, word]
  omega

/-- After a word comes a blank, or the end of the line. -/
lemma isBlank_head?_word (c : Cursor) : ∀ ch ∈ c.word.2.current.head?, Text.isBlank ch = true :=
  Text.isBlank_head?_afterWord c.skipBlanks.current

end Cursor

/-! ### Commands -/

/-- A command has two slashes before its token. -/
lemma Command.length_token_of_ofLine? {line : Int} {t : Text} {c : Command}
    (h : ofLine? line t = some c) : c.token.length + 2 ≤ t.length := by
  obtain ⟨⟨rest, hrest⟩, htoken⟩ := token_of_ofLine? h
  have htrim : (Text.trim t).length ≤ t.length :=
    ((List.rdropWhile_prefix Text.isBlank _).length_le).trans (List.dropWhile_suffix _).length_le
  have hslashes : Text.dropSlashes (Text.trim t) = Text.dropSlashes rest := by
    rw [← hrest]
    rfl
  have htoken_le : c.token.length ≤ rest.length := by
    rw [htoken, hslashes]
    exact (List.takeWhile_prefix _).length_le.trans
      ((List.dropWhile_suffix _).length_le.trans (List.dropWhile_suffix _).length_le)
  rw [← hrest, List.length_append, List.length_cons, List.length_singleton] at htrim
  omega

namespace Cursor

/-- **A command takes its line** with the two slashes, its token, and a line break if there is
one. -/
lemma furtherBy_of_command? {c next : Cursor} {cmd : Command} (h : c.command? = some (cmd, next)) :
    ∃ n, FurtherBy n c next ∧ cmd.token.length + 2 ≤ n ∧
      (next.atEnd = true ∨ cmd.token.length + 2 < n) := by
  obtain ⟨current, below, offset, line⟩ := c
  unfold command? at h
  -- by recursion on the lines, of which the prose is passed over
  fun_induction commandFrom? current below offset line with
  | case1 current offset line cmd' below hc =>
    obtain ⟨rfl, rfl⟩ : cmd' = cmd ∧ nextLine ⟨current, below, offset, line⟩ = next := by
      simpa using h
    obtain ⟨n, hn, hle, hlt⟩ := furtherBy_nextLine ⟨current, below, offset, line⟩
    have hlength := Command.length_token_of_ofLine? hc
    exact ⟨n, hn, hlength.trans hle, hlt.imp_right fun hlt => hlength.trans_lt hlt⟩
  | case2 => cases h
  | case3 current offset line hc next' below ih =>
    obtain ⟨n, hn, hle, hlt⟩ := ih h
    refine ⟨current.length + 1 + n, FurtherBy.trans ⟨rfl, ?_⟩ hn, by omega, ?_⟩
    · simp only [remaining, List.map_cons, List.sum_cons]
      omega
    · exact hlt.imp_right fun hlt => by omega

end Cursor

/-! ### Constructs -/

namespace Construct

open Cursor

variable {σ α : Type} {k : Construct σ α}

/-- **No construct goes back behind its start**, although it may put back the command that it does
not take. -/
lemma furtherBy_read (k : Construct σ α) (s : σ) (c : Cursor) :
    ∃ n, FurtherBy n c (k.read s c).cursor := by
  unfold read
  induction h : c.upcoming generalizing s c with
  | nil => exact c.furtherBy_toEnd
  | cons first ahead ih =>
    obtain ⟨cmd, next⟩ := first
    have hnext := upcoming_of_cons h
    obtain ⟨n, hn, -⟩ := furtherBy_of_command? (command?_of_upcoming h)
    simp only [run]
    rcases k.feed s cmd with ⟨s' | a | a | e, log⟩
    · obtain ⟨m, hm⟩ := ih s' next hnext
      exact ⟨n + m, hn.trans hm⟩
    · exact ⟨n, hn⟩
    · exact ⟨0, .refl c⟩
    · exact ⟨n, hn⟩

/-- The construct is complete with a command of the token, and in no other way. -/
structure ClosedBy (k : Construct σ α) (token : Text) : Prop where
  done : ∀ {s : σ} {c : Command} {a : α} {log : Log}, k.feed s c = (.done a, log) → c.token = token
  leave : ∀ (s : σ) (c : Command) (a : α) (log : Log), k.feed s c ≠ (.leave a, log)
  finish : ∀ (s : σ) (a : α), k.finish s ≠ .ok a

variable {token : Text} {s : σ} {c d : Cursor} {a : α}

/-- **A construct that is read to its end takes its end marker.** -/
lemma ClosedBy.furtherBy_of_ok (hk : k.ClosedBy token) (h : (k.read s c).result = .ok a) :
    ∃ n, FurtherBy n c (k.read s c).cursor ∧ token.length + 2 ≤ n ∧
      ((k.read s c).cursor.atEnd = true ∨ token.length + 2 < n) := by
  unfold read at *
  induction hc : c.upcoming generalizing s c with
  | nil =>
    rw [hc] at h
    exact absurd h (hk.finish s a)
  | cons first ahead ih =>
    obtain ⟨cmd, next⟩ := first
    have hnext := upcoming_of_cons hc
    obtain ⟨n, hn, hle, hlt⟩ := furtherBy_of_command? (command?_of_upcoming hc)
    rw [hc] at h
    rcases hfeed : k.feed s cmd with ⟨s' | a' | a' | e, log⟩ <;> simp only [run, hfeed] at h ⊢
    · rw [← hnext] at h
      obtain ⟨m, hm, hle', hlt'⟩ := ih h hnext
      exact ⟨n + m, hn.trans hm, by omega, hlt'.imp_right fun hlt' => by omega⟩
    · rw [hk.done hfeed] at hle hlt
      exact ⟨n, hn, hle, hlt⟩
    · exact absurd hfeed (hk.leave s cmd a' log)
    · cases h

/-- Where it is looked for its commands, and where the text ends, is all that counts. -/
lemma ClosedBy.read_congr (hk : k.ClosedBy token) (s : σ) (hahead : c.upcoming = d.upcoming)
    (hend : c.toEnd = d.toEnd) : k.read s c = k.read s d := by
  unfold read
  rw [hahead]
  rcases d.upcoming with _ | ⟨⟨cmd, next⟩, ahead⟩
  · simp only [run, hend]
  · rcases hfeed : k.feed s cmd with ⟨s' | a | a | e, log⟩
    · simp only [run, hfeed]
    · simp only [run, hfeed]
    · exact absurd hfeed (hk.leave s cmd a log)
    · simp only [run, hfeed]

end Construct

lemma Pages.closedBy_block : block.ClosedBy Keyword.pagesEnd.token where
  done {p c a log} h := by
    have h : feed p c = (.done a, log) := h
    unfold feed at h
    split at h
    · rename_i hk
      exact Command.keyword?_eq_some_iff.mp hk
    · cases h
    · rcases hi : c.instruction? with e | _ | i <;> rw [hi] at h <;> cases h
  leave p c a log := feed_ne_leave p a c log
  finish _ _ h := by cases h

lemma Script.closedBy_body : body.ClosedBy Keyword.scriptEnd.token where
  done h := Command.keyword?_eq_some_iff.mp (Body.ends_of_feed h).1
  leave b c s log := Body.feed_ne_leave b c s log
  finish _ _ h := by cases h

namespace Script

open Cursor

/-- The actions of a command, and whatever is read for them, are further on. -/
lemma furtherBy_readActions (cmd : Command) (next : Cursor) :
    ∃ n, FurtherBy n next (readActions cmd next).cursor := by
  obtain ⟨m, hm, -⟩ := next.furtherBy_skipBlanks
  unfold readActions
  split
  · obtain ⟨n, hn⟩ := Pages.block.furtherBy_read Pages.empty next.skipBlanks
    exact ⟨m + n, hm.trans hn⟩
  · exact ⟨0, .refl next⟩
  · unfold MessageBox.read
    split
    · exact ⟨0, .refl next⟩
    · obtain ⟨n, hn⟩ := MessageBox.lines.furtherBy_read [] next.skipBlanks
      exact ⟨m + n, hm.trans hn⟩
  · split <;> exact ⟨0, .refl next⟩

/-- **A block takes seven characters**, for its name, a blank and the end marker, and one more for a
line break if anything comes after it. -/
lemma furtherBy_of_block {c : Cursor} {s : Script} (hname : c.word.1 ≠ [])
    (h : (read c.word.2).result = .ok s) :
    ∃ n, FurtherBy n c (read c.word.2).cursor ∧ 7 ≤ n ∧
      ((read c.word.2).cursor.atEnd = true ∨ 8 ≤ n) := by
  obtain ⟨w, hw, hwle⟩ := c.furtherBy_word
  have hwpos := List.length_pos_iff.mpr hname
  obtain ⟨b, hb, hblank⟩ := c.word.2.furtherBy_skipBlanks
  have hread : read c.word.2.skipBlanks = read c.word.2 :=
    closedBy_body.read_congr Body.empty (upcoming_skipBlanks _) (toEnd_skipBlanks _)
  rw [← hread] at h ⊢
  obtain ⟨n, hn, hle, hlt⟩ := closedBy_body.furtherBy_of_ok h
  have htoken : Keyword.scriptEnd.token.length = 3 := rfl
  rw [htoken] at hle hlt
  have hbpos : 0 < b := by
    -- what stands right after the name is a blank, because there is something to read
    by_contra hnone
    rcases hblank (Nat.eq_zero_of_not_pos hnone) with hend | ⟨ch, hch, hvisible⟩
    · have := hb.remaining
      have := hn.remaining
      have := remaining_eq_zero_iff.mpr hend
      omega
    · rw [c.isBlank_head?_word ch hch] at hvisible
      cases hvisible
  exact ⟨w + (b + n), hw.trans (hb.trans hn), by omega, hlt.imp_right fun hlt => by omega⟩

end Script

/-- As many blocks as there are, they take eight characters each, except that the last one may lack
its line break. -/
lemma Cursor.Blocks.furtherBy {c d : Cursor} {bs : List Block} (h : c.Blocks bs d) :
    ∃ n, FurtherBy n c d ∧ 8 * bs.length ≤ n + 1 := by
  induction h with
  | nil c => exact ⟨0, .refl c, Nat.zero_le _⟩
  | cons named complete rest ih =>
    obtain ⟨n, hn, hle⟩ := ih
    obtain ⟨m, hm, hseven, hlt⟩ := Script.furtherBy_of_block named complete
    refine ⟨m + n, hm.trans hn, ?_⟩
    rw [List.length_cons]
    rcases hlt with hend | height
    · -- nothing is left after this block, so it is the last one
      have := hn.remaining
      have := Cursor.remaining_eq_zero_iff.mpr hend
      omega
    · omega

end Cutscene
