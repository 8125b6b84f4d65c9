import Cutscene.Proofs.Fields
import Cutscene.Proofs.Insertion
import Cutscene.Proofs.Progress
import Cutscene.Reading.Stream

/-!
What a stream of commands delivers.

A stream looks at one line after another, and at what is left of the first one if the cursor stands
in the middle of it. It delivers the lines that are commands and passes over all others, until a
command has the token of its marker. So what it delivers, whether its marker comes and where it ends
can be told from the lines.
-/

namespace Cutscene

/-- What came of a stream that was taken to its end: the commands that it delivered, whether its
marker came, and the position then. -/
structure Delivery where
  commands : List Command
  result : Except Fault Unit
  cursor : Cursor

/-- The delivery with some commands before it. -/
def Delivery.after (cs : List Command) (d : Delivery) : Delivery :=
  { d with commands := cs ++ d.commands }

namespace CommandStream

/-! ### Streams that are taken to their end -/

lemma remaining_lt_of_next {s s' : CommandStream} {c d : Cursor} {cmd : Command}
    (h : s.next c = (.ok (some cmd), s', d)) : d.remaining < c.remaining := by
  unfold next at h
  split at h
  · cases h
  · split at h
    · cases h
    · rename_i hcommand
      split at h
      · cases h
      · cases h
        obtain ⟨n, hn, hle, -⟩ := Cursor.furtherBy_of_command? hcommand
        have := hn.remaining
        omega

/-- Take commands until the stream is over. -/
def exhaust (s : CommandStream) (c : Cursor) : Delivery :=
  match _h : s.next c with
  | (.error e, _, d) => ⟨[], .error e, d⟩
  | (.ok none, _, d) => ⟨[], .ok (), d⟩
  | (.ok (some cmd), s', d) => (exhaust s' d).after [cmd]
termination_by c.remaining
decreasing_by exact remaining_lt_of_next _h

variable {c d : Cursor} {cmd : Command} {marker : Text}

lemma exhaust_of_none (h : c.command? = none) :
    (toMarker marker).exhaust c = ⟨[], .error (.unterminated marker), c.toEnd⟩ := by
  have hnext : (toMarker marker).next c =
      (.error (.unterminated marker), ⟨marker, true⟩, c.toEnd) := by
    simp [next, toMarker, h]
  rw [exhaust]
  split <;> simp_all

lemma exhaust_of_marker (h : c.command? = some (cmd, d)) (hmarker : cmd.token = marker) :
    (toMarker marker).exhaust c = ⟨[], .ok (), d⟩ := by
  have hnext : (toMarker marker).next c = (.ok none, ⟨marker, true⟩, d) := by
    simp [next, toMarker, h, hmarker]
  rw [exhaust]
  split <;> simp_all

lemma exhaust_of_command (h : c.command? = some (cmd, d)) (hmarker : cmd.token ≠ marker) :
    (toMarker marker).exhaust c = ((toMarker marker).exhaust d).after [cmd] := by
  have hnext : (toMarker marker).next c = (.ok (some cmd), toMarker marker, d) := by
    simp [next, toMarker, h, hmarker]
  rw [exhaust]
  split <;> simp_all

/-- The commands ahead, and where the text ends, are all that counts. -/
lemma exhaust_congr (hahead : c.upcoming = d.upcoming) (hend : c.toEnd = d.toEnd) :
    (toMarker marker).exhaust c = (toMarker marker).exhaust d := by
  have hsame : c.command? = d.command? := by
    rw [Cursor.command?_eq_head?, Cursor.command?_eq_head?, hahead]
  rcases hd : d.command? with _ | ⟨cmd, next⟩
  · rw [exhaust_of_none (hsame.trans hd), exhaust_of_none hd, hend]
  · by_cases hmarker : cmd.token = marker
    · rw [exhaust_of_marker (hsame.trans hd) hmarker, exhaust_of_marker hd hmarker]
    · rw [exhaust_of_command (hsame.trans hd) hmarker, exhaust_of_command hd hmarker]

/-- To read all commands before a marker at once comes to the same. -/
lemma run_commands (marker : Text) (cs : List Command) (c : Cursor) :
    ((Construct.commands marker).run cs c c.upcoming).result =
        (fun _ => cs ++ ((toMarker marker).exhaust c).commands) <$>
          ((toMarker marker).exhaust c).result ∧
      ((Construct.commands marker).run cs c c.upcoming).cursor =
        ((toMarker marker).exhaust c).cursor := by
  induction h : c.upcoming generalizing cs c with
  | nil =>
    have hnone : c.command? = none := by rw [Cursor.command?_eq_head?, h, List.head?_nil]
    rw [exhaust_of_none hnone]
    exact ⟨rfl, rfl⟩
  | cons first ahead ih =>
    obtain ⟨cmd, next⟩ := first
    have hcommand := Cursor.command?_of_upcoming h
    have hnext := Cursor.upcoming_of_cons h
    simp only [Construct.run, Construct.commands]
    by_cases hmarker : cmd.token = marker
    · rw [exhaust_of_marker hcommand hmarker, if_pos hmarker]
      exact ⟨by rw [List.append_nil]; rfl, rfl⟩
    · obtain ⟨hresult, hcursor⟩ := ih (cs ++ [cmd]) next hnext
      rw [exhaust_of_command hcommand hmarker, if_neg hmarker]
      rw [List.append_assoc] at hresult
      exact ⟨hresult, hcursor⟩

end CommandStream

/-! ### One line after another -/

namespace Cursor

lemma toEnd_nextLine (c : Cursor) : c.nextLine.toEnd = c.toEnd := by
  obtain ⟨current, below, offset, line⟩ := c
  cases below <;> rfl

lemma drop_of_lines_singleton {s u : Text} {o : Nat} (h : Text.lines (s.drop o) = [u]) :
    s.drop o = u := by
  rw [← Text.intercalate_lines (s.drop o), h, List.intercalate_singleton]

/-- From the last line one gets to the end of the text. -/
lemma nextLine_seek_last {s u : Text} {o : Nat} (k : Int) (h : Text.lines (s.drop o) = [u]) :
    (seek s o k).nextLine = seek s (o + u.length) k := by
  have hu := drop_of_lines_singleton h
  have hrest : s.drop (o + u.length) = [] := by
    rw [← List.drop_drop, hu, List.drop_length]
  rw [seek, seek, h, hrest, Text.lines_nil]
  rfl

lemma drop_of_lines {s u v : Text} {vs : List Text} {o : Nat}
    (h : Text.lines (s.drop o) = u :: v :: vs) :
    s.drop o = u ++ '\n' :: s.drop (o + u.length + 1) ∧
      Text.lines (s.drop (o + u.length + 1)) = v :: vs := by
  have hmem {t : Text} (ht : t ∈ u :: v :: vs) : '\n' ∉ t :=
    Text.newline_not_mem_of_mem_lines (h ▸ ht)
  have hsplit : s.drop o = u ++ '\n' :: ['\n'].intercalate (v :: vs) := by
    rw [← Text.intercalate_lines (s.drop o), h, List.intercalate_cons_cons, List.append_assoc]
    rfl
  have hrest : s.drop (o + u.length + 1) = ['\n'].intercalate (v :: vs) := by
    rw [Nat.add_assoc, ← List.drop_drop, hsplit, List.drop_length_add_append]
    rfl
  rw [hrest]
  exact ⟨hsplit, Text.lines_intercalate (by simp) fun t ht => hmem (List.mem_cons_of_mem u ht)⟩

/-- From any other line one gets behind its line break. -/
lemma nextLine_seek {s u v : Text} {vs : List Text} {o : Nat} (k : Int)
    (h : Text.lines (s.drop o) = u :: v :: vs) :
    (seek s o k).nextLine = seek s (o + u.length + 1) (k + 1) := by
  rw [seek, seek, h, (drop_of_lines h).2]
  rfl

end Cursor

namespace CommandStream

variable {c : Cursor} {cmd : Command} {marker : Text}

lemma exhaust_of_line_marker (h : Command.ofLine? c.line c.current = some cmd)
    (hmarker : cmd.token = marker) :
    (toMarker marker).exhaust c = ⟨[], .ok (), c.nextLine⟩ := by
  have hcommand : c.command? = some (cmd, c.nextLine) := by
    rw [Cursor.command?_eq_head?, Cursor.upcoming_eq_append, h]
    rfl
  exact exhaust_of_marker hcommand hmarker

/-- **One line** that is not the marker is delivered if it is a command, and passed over if not. -/
lemma exhaust_of_line (h : ∀ cmd ∈ Command.ofLine? c.line c.current, cmd.token ≠ marker) :
    (toMarker marker).exhaust c = ((toMarker marker).exhaust c.nextLine).after
      (Command.ofLine? c.line c.current).toList := by
  have hahead := c.upcoming_eq_append
  rcases hline : Command.ofLine? c.line c.current with _ | cmd <;> rw [hline] at hahead
  · exact exhaust_congr hahead c.toEnd_nextLine.symm
  · have hcommand : c.command? = some (cmd, c.nextLine) := by
      rw [Cursor.command?_eq_head?, hahead]
      rfl
    exact exhaust_of_command hcommand (h cmd hline)

/-- What a stream delivers from some position on, told from the lines there. -/
inductive Scans (s : Text) (o : Nat) (k : Int) (marker : Text) (d : Delivery) : Prop
  | endless (none : ∀ cmd ∈ Command.onLines k (Text.lines (s.drop o)), cmd.token ≠ marker)
      (delivered : d = ⟨Command.onLines k (Text.lines (s.drop o)), .error (.unterminated marker),
        (Cursor.seek s o k).toEnd⟩)
  | whole (before after : List Text) (t passed rest : Text) (last : Command)
      (lines : Text.lines (s.drop o) = before ++ t :: after)
      (first : ∀ cmd ∈ Command.onLines k before, cmd.token ≠ marker)
      (found : Command.ofLine? (k + before.length) t = some last) (ends : last.token = marker)
      (split : s.drop o = passed ++ rest)
      (place : (Text.lines passed = before ++ [t, []] ∧ Text.lines rest = after) ∨
        (Text.lines passed = before ++ [t] ∧ rest = [] ∧ after = []))
      (delivered : d = ⟨Command.onLines k before, .ok (),
        Cursor.seek s (o + passed.length) (k + passed.count '\n')⟩)

/-- One more line above, which is not the marker. -/
lemma Scans.above {s u v : Text} {vs : List Text} {o : Nat} {k : Int} {d : Delivery}
    (hlines : Text.lines (s.drop o) = u :: v :: vs)
    (hu : ∀ cmd ∈ Command.ofLine? k u, cmd.token ≠ marker)
    (h : Scans s (o + u.length + 1) (k + 1) marker d) :
    Scans s o k marker (d.after (Command.ofLine? k u).toList) := by
  obtain ⟨hsplit, hrest⟩ := Cursor.drop_of_lines hlines
  have hfresh : '\n' ∉ u := Text.newline_not_mem_of_mem_lines (hlines ▸ List.mem_cons_self)
  have hfirst {cs : List Command} (hcs : ∀ cmd ∈ cs, cmd.token ≠ marker) :
      ∀ cmd ∈ (Command.ofLine? k u).toList ++ cs, cmd.token ≠ marker :=
    List.forall_mem_append.mpr ⟨by simpa using hu, hcs⟩
  cases h with
  | endless none delivered =>
    rw [hrest] at none delivered
    refine .endless ?_ ?_
    · rw [hlines, Command.onLines]
      exact hfirst none
    · rw [delivered, hlines, ← Cursor.nextLine_seek k hlines, Cursor.toEnd_nextLine]
      rfl
  | whole before after t passed rest last lines first found ends split place delivered =>
    have hpassed : Text.lines (u ++ '\n' :: passed) = u :: Text.lines passed := by
      rw [Text.lines_append_newline, Text.lines_of_not_mem hfresh]
      rfl
    have hcount : (u ++ '\n' :: passed).count '\n' = passed.count '\n' + 1 := by
      rw [List.count_append, List.count_eq_zero.mpr hfresh, List.count_cons_self, Nat.zero_add]
    refine .whole (u :: before) after t (u ++ '\n' :: passed) rest last ?_ (hfirst first) ?_ ends
      ?_ ?_ ?_
    · rw [hlines, ← hrest, lines]
      rfl
    · rw [← found, List.length_cons]
      congr 1
      omega
    · rw [hsplit, split, List.append_assoc]
      rfl
    · rw [hpassed]
      exact place.imp (fun h => ⟨congrArg _ h.1, h.2⟩) fun h => ⟨congrArg _ h.1, h.2⟩
    · rw [delivered, hcount, List.length_append, List.length_cons]
      simp only [Delivery.after, Command.onLines, Delivery.mk.injEq, true_and]
      congr 1 <;> omega

/-- The first line is the marker. -/
lemma Scans.found {s u : Text} {us : List Text} {o : Nat} {k : Int} {cmd : Command}
    (hlines : Text.lines (s.drop o) = u :: us) (hcmd : Command.ofLine? k u = some cmd)
    (hmarker : cmd.token = marker) :
    Scans s o k marker ⟨[], .ok (), (Cursor.seek s o k).nextLine⟩ := by
  have hfirst : ∀ cmd ∈ Command.onLines k [], cmd.token ≠ marker := by simp [Command.onLines]
  have hfound : Command.ofLine? (k + ([] : List Text).length) u = some cmd := by simpa using hcmd
  have hfresh : '\n' ∉ u := Text.newline_not_mem_of_mem_lines (hlines ▸ List.mem_cons_self)
  have hcount : u.count '\n' = 0 := List.count_eq_zero.mpr hfresh
  cases us with
  | nil =>
    have hdrop := Cursor.drop_of_lines_singleton hlines
    refine .whole [] [] u u [] cmd hlines hfirst hfound hmarker (by rw [hdrop, List.append_nil])
      (.inr ⟨Text.lines_of_not_mem hfresh, rfl, rfl⟩) ?_
    rw [Cursor.nextLine_seek_last k hlines, hcount]
    simp [Command.onLines]
  | cons v vs =>
    obtain ⟨hsplit, hrest⟩ := Cursor.drop_of_lines hlines
    have hpassed : Text.lines (u ++ ['\n']) = [u, []] := by
      rw [Text.lines_append_newline, Text.lines_of_not_mem hfresh, Text.lines_nil]
      rfl
    refine .whole [] (v :: vs) u (u ++ ['\n']) (s.drop (o + u.length + 1)) cmd hlines hfirst hfound
      hmarker (by rw [List.append_assoc]; exact hsplit) (.inl ⟨hpassed, hrest⟩) ?_
    rw [Cursor.nextLine_seek k hlines, List.count_append, hcount]
    simp [Command.onLines, Nat.add_assoc]

/-- The only line is not the marker. -/
lemma scans_exhaust_last {s u : Text} {o : Nat} {k : Int}
    (hlines : Text.lines (s.drop o) = [u]) (hu : ∀ cmd ∈ Command.ofLine? k u, cmd.token ≠ marker) :
    Scans s o k marker (((toMarker marker).exhaust (Cursor.seek s o k).nextLine).after
      (Command.ofLine? k u).toList) := by
  have hnone : (Cursor.seek s o k).nextLine.command? = none := by
    rw [Cursor.seek, hlines]
    rfl
  have honly : Command.onLines k [u] = (Command.ofLine? k u).toList := List.append_nil _
  refine .endless ?_ ?_
  · rw [hlines, honly]
    simpa using hu
  · rw [hlines, honly, exhaust_of_none hnone, Cursor.toEnd_nextLine, Delivery.after,
      List.append_nil]

/-- **A stream that is taken to its end** delivers what is on the lines. -/
lemma scans_exhaust (s : Text) (o : Nat) (k : Int) (marker : Text) :
    Scans s o k marker ((toMarker marker).exhaust (Cursor.seek s o k)) := by
  -- by induction on the lines; each of them is the marker or leaves the lines below
  induction hlines : Text.lines (s.drop o) generalizing o k with
  | nil => exact absurd hlines (Text.lines_ne_nil _)
  | cons u us ih =>
    have hcurrent : (Cursor.seek s o k).current = u ∧ (Cursor.seek s o k).line = k := by
      rw [Cursor.seek, hlines]
      exact ⟨rfl, rfl⟩
    by_cases hu : ∀ cmd ∈ Command.ofLine? k u, cmd.token ≠ marker
    · have hline : ∀ cmd ∈ Command.ofLine? (Cursor.seek s o k).line (Cursor.seek s o k).current,
          cmd.token ≠ marker := by rwa [hcurrent.1, hcurrent.2]
      rw [exhaust_of_line hline, hcurrent.1, hcurrent.2]
      cases us with
      | nil => exact scans_exhaust_last hlines hu
      | cons v vs =>
        rw [Cursor.nextLine_seek k hlines]
        exact (ih _ _ (Cursor.drop_of_lines hlines).2).above hlines hu
    · push Not at hu
      obtain ⟨cmd, hcmd, hmarker⟩ := hu
      have hline : Command.ofLine? (Cursor.seek s o k).line (Cursor.seek s o k).current =
          some cmd := by rwa [hcurrent.1, hcurrent.2]
      rw [exhaust_of_line_marker hline hmarker]
      exact .found hlines hcmd hmarker

/-- **A stream delivers the commands of the lines.** From any place of a text, with any number for
its line, split what is left into lines. A command is on a line if the line, without the blanks
around it, starts with two slashes; its token is the first word after all slashes, and its arguments
are the rest of the line. If no line has a command with the token of the marker, then all commands
are delivered, with the numbers of their lines, and the marker is missing. Otherwise the commands on
the lines before the first such line are delivered, and the cursor stands after the line break of
that line, or at the end of the text if there is none; its line number has grown by the line breaks
that it has passed. Skipping blanks first changes nothing, and neither does reading all commands at
once. -/
theorem exhaust_delivers :
    (∀ (line : Int) (t : Text) (c : Command),
      Command.ofLine? line t = some c ↔ c.line = line ∧ c.StandsOn t) ∧
    (∀ (line : Int) (t : Text),
      Command.ofLine? line t = none ↔ ¬ ['/', '/'] <+: Text.trim t) ∧
    ∀ (s : Text) (o : Nat) (k : Int) (marker : Text),
      let start := Cursor.seek s o k
      let delivery := (toMarker marker).exhaust start
      (toMarker marker).exhaust start.skipBlanks = delivery ∧
      ((Construct.commands marker).read [] start).result =
        (fun _ => delivery.commands) <$> delivery.result ∧
      ((Construct.commands marker).read [] start).cursor = delivery.cursor ∧
      (((∀ c ∈ Command.onLines k (Text.lines (s.drop o)), c.token ≠ marker) ∧
          delivery.commands = Command.onLines k (Text.lines (s.drop o)) ∧
          delivery.result = .error (.unterminated marker)) ∨
        ∃ before t after last passed rest,
          Text.lines (s.drop o) = before ++ t :: after ∧
          (∀ c ∈ Command.onLines k before, c.token ≠ marker) ∧
          Command.ofLine? (k + before.length) t = some last ∧ last.token = marker ∧
          delivery.commands = Command.onLines k before ∧ delivery.result = .ok () ∧
          s.drop o = passed ++ rest ∧
          ((Text.lines passed = before ++ [t, []] ∧ Text.lines rest = after) ∨
            (Text.lines passed = before ++ [t] ∧ rest = [] ∧ after = [])) ∧
          delivery.cursor = Cursor.seek s (o + passed.length) (k + passed.count '\n')) := by
  refine ⟨fun _ _ _ => Command.ofLine?_eq_some_iff, fun _ _ => Command.ofLine?_eq_none_iff, ?_⟩
  intro s o k marker start delivery
  obtain ⟨hresult, hcursor⟩ := run_commands marker [] start
  refine ⟨exhaust_congr start.upcoming_skipBlanks start.toEnd_skipBlanks, hresult, hcursor, ?_⟩
  have hscans : Scans s o k marker delivery := scans_exhaust s o k marker
  cases hscans with
  | endless none delivered =>
    rw [delivered]
    exact .inl ⟨none, rfl, rfl⟩
  | whole before after t passed rest last lines first found ends split place delivered =>
    rw [delivered]
    exact .inr ⟨_, _, _, _, _, _, lines, first, found, ends, rfl, rfl, split, place, rfl⟩

/-- Reading starts in the middle of a line, at mere slashes, and ends before prose. -/
example : ((Construct.commands "END".toList).read []
    (Cursor.seek "A // \nor\n\t///Z  7\n//END\n.".toList 1 5)).result =
      .ok [⟨[], [], 5⟩, ⟨"Z".toList, "  7".toList, 7⟩] := by
  decide +kernel

end CommandStream

end Cutscene
