import Cutscene.Proofs.Steps

/-!
A command without a meaning can be put in almost anywhere.

It is noted and passed over, so a script is what it was, and what is wrong below is still wrong, one
line further down. Only an open message box takes notice: it ends before the command, whatever that
command is. So there is one place where the command may not stand, before a line of a box.
-/

namespace Cutscene

/-! ### What a construct makes of a list of commands -/

/-- What came of some commands: a result, the commands that are left, and what was noted. -/
structure Reading (α : Type) where
  result : Except Fault α
  left : List Command
  log : Log

namespace Reading

variable {α : Type}

def after (log : Log) (r : Reading α) : Reading α := { r with log := log ++ r.log }

/-- The reading with other lines in its fault, its commands and its events. -/
def mapLine (g : Int → Int) (r : Reading α) : Reading α :=
  ⟨r.result.mapError (Fault.mapLine g), r.left.map (Command.mapLine g), r.log.map (Event.mapLine g)⟩

lemma mapLine_after (g : Int → Int) (log : Log) (r : Reading α) :
    (r.after log).mapLine g = (r.mapLine g).after (log.map (Event.mapLine g)) := by
  simp [mapLine, after]

end Reading

/-- The outcome without the position, of which the commands ahead remain. -/
def Outcome.reading {α : Type} (o : Outcome α) : Reading α := ⟨o.result, o.cursor.commands, o.log⟩

namespace Construct

variable {σ α : Type} {k : Construct σ α}

/-- Feed a list of commands. -/
def take (k : Construct σ α) (s : σ) : List Command → Reading α
  | [] => ⟨k.finish s, [], []⟩
  | c :: cs =>
    match k.feed s c with
    | (.more s, log) => (take k s cs).after log
    | (.done a, log) => ⟨.ok a, cs, log⟩
    | (.leave a, log) => ⟨.ok a, c :: cs, log⟩
    | (.fail e, log) => ⟨.error e, cs, log⟩

/-- Reading from a position comes to feeding the commands ahead of it. -/
lemma reading_read (k : Construct σ α) (s : σ) (c : Cursor) :
    (k.read s c).reading = k.take s c.commands := by
  unfold Construct.read Cursor.commands
  induction hc : c.upcoming generalizing s c with
  | nil =>
    simp only [run, take, List.map_nil, Outcome.reading, Cursor.commands, Cursor.upcoming_toEnd]
  | cons first ahead ih =>
    obtain ⟨cmd, next⟩ := first
    have hnext := Cursor.upcoming_of_cons hc
    simp only [run, take, List.map_cons]
    rcases k.feed s cmd with ⟨s' | a | a | e, log⟩
    · exact congrArg (Reading.after log) (ih s' next hnext)
    · simp only [Outcome.reading, Cursor.commands, hnext]
    · simp only [Outcome.reading, Cursor.commands, hc, List.map_cons]
    · simp only [Outcome.reading, Cursor.commands, hnext]

/-- Commands on other lines come to the same, on those lines. -/
lemma LineBlind.take_mapLine (hk : k.LineBlind) (g : Int → Int) (s : σ) (cs : List Command) :
    k.take s (cs.map (Command.mapLine g)) = (k.take s cs).mapLine g := by
  induction cs generalizing s with
  | nil =>
    simp only [take, List.map_nil, Reading.mapLine]
    rcases hfinish : k.finish s with e | a
    · -- at the end of the input a fault has no line
      have hnone := hk.finish s e hfinish
      rcases e with ⟨cause, command, _ | n⟩ | _ | _ | _
      · rfl
      · cases hnone
      · rfl
      · rfl
      · rfl
    · rfl
  | cons c cs ih =>
    simp only [take, List.map_cons, hk.feed g s c]
    rcases k.feed s c with ⟨s' | a | a | e, log⟩
    · simp only [Reply.mapLines, Reply.mapLine, ih, Reading.mapLine_after]
    · rfl
    · rfl
    · rfl

end Construct

/-! ### The commands on some lines -/

/-- The commands on some lines, the first of which has the given number. -/
def Command.onLines (line : Int) : List Text → List Command
  | [] => []
  | t :: ts => (ofLine? line t).toList ++ onLines (line + 1) ts

namespace Command

lemma onLines_append (line : Int) (ts us : List Text) :
    onLines line (ts ++ us) = onLines line ts ++ onLines (line + ts.length) us := by
  induction ts generalizing line with
  | nil => simp [onLines]
  | cons t ts ih =>
    have hline : line + 1 + ts.length = line + (t :: ts).length := by
      rw [List.length_cons]
      omega
    rw [List.cons_append, onLines, ih, hline, onLines, List.append_assoc]

/-- Where the lines stand decides no more than the lines of the commands. -/
lemma onLines_mapLine (g : Int → Int) {line line' : Int} {ts : List Text}
    (h : ∀ i < ts.length, g (line + i) = line' + i) :
    onLines line' ts = (onLines line ts).map (mapLine g) := by
  induction ts generalizing line line' with
  | nil => rfl
  | cons t ts ih =>
    have hhead : g line = line' := by simpa using h 0 (by simp)
    have htail : ∀ i < ts.length, g (line + 1 + i) = line' + 1 + i := by
      intro i hi
      have hnext : line + 1 + (i : Int) = line + ((i + 1 : Nat) : Int) := by omega
      rw [hnext, h (i + 1) (by simpa using hi)]
      omega
    rw [onLines, onLines, List.map_append, ← ih htail, ← hhead, ofLine?_mapLine]
    cases ofLine? line t <;> rfl

/-- What the commands on some lines say is what the lines say. -/
lemma map_onLines (line : Int) (ts : List Text) :
    (onLines line ts).map (fun c => (c.token, c.arguments)) = ts.filterMap said? := by
  induction ts generalizing line with
  | nil => rfl
  | cons t ts ih =>
    rw [onLines, List.map_append, ih, List.filterMap_cons, said?_eq line]
    cases ofLine? line t <;> rfl

end Command

lemma Cursor.commands_eq_onLines (c : Cursor) : c.commands = Command.onLines c.line c.lines := by
  obtain ⟨current, below, offset, line⟩ := c
  unfold commands
  induction below generalizing current offset line with
  | nil =>
    simp only [lines, Command.onLines, List.append_nil, upcoming, upcomingFrom, List.map_map]
    exact List.map_id _
  | cons next below ih =>
    rw [upcoming_eq_append, List.map_append]
    have hbelow := ih next (offset + current.length + 1) (line + 1)
    simp only [nextLine, hbelow, lines, Command.onLines, List.map_map]
    exact congrArg (· ++ _) (List.map_id _)

/-! ### One more command -/

/-- The second log has what the first one has, and the event of the command besides. If a box was
open where the command stands, that is the command which ends it, and not a later one. -/
inductive Log.Gains (c : Command) : Log → Log → Prop
  | noted (before after : Log) : Gains c (before ++ after) (before ++ c.ignored :: after)
  | endsBox (before after : Log) (token : Text) (line : Int) :
      Gains c (before ++ .boxEnds token line :: after)
        (before ++ .boxEnds c.token c.line :: c.ignored :: after)

lemma Log.Gains.append_left {c : Command} {log log' : Log} (first : Log) (h : Gains c log log') :
    Gains c (first ++ log) (first ++ log') := by
  cases h with
  | noted before after =>
    rw [← List.append_assoc, ← List.append_assoc]
    exact .noted (first ++ before) after
  | endsBox before after token line =>
    rw [← List.append_assoc, ← List.append_assoc]
    exact .endsBox (first ++ before) after token line

namespace Script

variable {u : Command}

/-- A command that is not part of an open box finds the box complete. -/
lemma feed_box {c : Command} (h : ¬ c.InBox) (actions : Script) (frame : BoxFrame)
    (lines : List Text) :
    body.feed ⟨actions, .box frame lines⟩ c =
      ((body.feed ⟨actions ++ [.single (frame.withLines lines)], .nothing⟩ c).1,
        .boxEnds c.token c.line ::
          (body.feed ⟨actions ++ [.single (frame.withLines lines)], .nothing⟩ c).2) := by
  have hbox : MessageBox.feed lines c = (.leave lines, [.boxEnds c.token c.line]) := by
    unfold MessageBox.feed
    split
    · rename_i hk
      exact absurd (.inl hk) h
    · rename_i hk
      exact absurd (.inr hk) h
    · rfl
  simp only [body, Body.feed, Body.feedBox, hbox]
  rfl

/-- So do all commands from there on, and the end of the input. -/
lemma take_box {cs : List Command} (h : ∀ c ∈ cs.head?, ¬ c.InBox) (actions : Script)
    (frame : BoxFrame) (lines : List Text) :
    body.take ⟨actions, .box frame lines⟩ cs =
      (body.take ⟨actions ++ [.single (frame.withLines lines)], .nothing⟩ cs).after
        (cs.head?.map fun c => .boxEnds c.token c.line).toList := by
  cases cs with
  | nil => rfl
  | cons c cs =>
    simp only [Construct.take, feed_box (h c rfl)]
    generalize body.feed ⟨actions ++ [.single (frame.withLines lines)], .nothing⟩ c = reply
    rcases reply with ⟨b | s | s | e, log⟩ <;> rfl

lemma feed_meaningless (hu : u.keyword? = none) (actions : Script) :
    body.feed ⟨actions, .nothing⟩ u = (.more ⟨actions, .nothing⟩, [u.ignored]) := by
  simp only [body, Body.feed, Body.feedPlain, hu, Command.instruction?_of_meaningless hu, Body.add,
    List.append_nil]

lemma feed_meaningless_pages (hu : u.keyword? = none) (actions : Script) (p : OpenPages) :
    body.feed ⟨actions, .pages p⟩ u = (.more ⟨actions, .pages p⟩, [u.ignored]) := by
  simp only [body, Body.feed, Body.feedPages, Pages.feed, hu,
    Command.instruction?_of_meaningless hu]

lemma not_inBox_of_meaningless (hu : u.keyword? = none) : ¬ u.InBox := by
  simp [Command.InBox, hu]

/-- **One command without a meaning** changes nothing about a body but its log. -/
lemma take_cons_meaningless (hu : u.keyword? = none) {cs : List Command}
    (hnext : ∀ c ∈ cs.head?, ¬ c.InBox) (b : Body) :
    (body.take b (u :: cs)).result = (body.take b cs).result ∧
      (body.take b (u :: cs)).left = (body.take b cs).left ∧
      ∀ s, (body.take b cs).result = .ok s →
        Log.Gains u (body.take b cs).log (body.take b (u :: cs)).log := by
  obtain ⟨actions, inside⟩ := b
  cases inside with
  | nothing =>
    simp only [Construct.take, feed_meaningless hu]
    exact ⟨rfl, rfl, fun _ _ => .noted [] _⟩
  | pages p =>
    simp only [Construct.take, feed_meaningless_pages hu]
    exact ⟨rfl, rfl, fun _ _ => .noted [] _⟩
  | box frame lines =>
    have hfirst : ∀ c ∈ (u :: cs).head?, ¬ c.InBox := by simpa using not_inBox_of_meaningless hu
    rw [take_box hfirst, take_box hnext]
    simp only [Construct.take, feed_meaningless hu]
    refine ⟨rfl, rfl, fun s hs => ?_⟩
    cases cs with
    | nil => cases hs
    | cons c cs => exact .endsBox [] _ _ _

/-- Commands that do not complete a script may be followed by one without a meaning. -/
lemma take_insert (hu : u.keyword? = none) {before after : List Command}
    (hnext : ∀ c ∈ after.head?, ¬ c.InBox) {b : Body}
    (hopen : ∀ s, (body.take b before).result ≠ .ok s) :
    (body.take b (before ++ u :: after)).result = (body.take b (before ++ after)).result ∧
      ∀ s, (body.take b (before ++ after)).result = .ok s →
        (body.take b (before ++ u :: after)).left = (body.take b (before ++ after)).left ∧
        Log.Gains u (body.take b (before ++ after)).log
          (body.take b (before ++ u :: after)).log := by
  -- by induction on the commands before; the body is another one after each
  induction before generalizing b with
  | nil =>
    obtain ⟨hresult, hleft, hlog⟩ := take_cons_meaningless hu hnext b
    exact ⟨hresult, fun s hs => ⟨hleft, hlog s hs⟩⟩
  | cons c before ih =>
    simp only [List.cons_append, Construct.take] at hopen ⊢
    rcases hfeed : body.feed b c with ⟨b' | s | s | e, log⟩ <;> simp only [hfeed] at hopen ⊢
    · obtain ⟨hresult, hrest⟩ := ih hopen
      exact ⟨hresult, fun s hs => ⟨(hrest s hs).1, (hrest s hs).2.append_left log⟩⟩
    · exact absurd rfl (hopen s)
    · exact absurd rfl (hopen s)
    · exact ⟨trivial, fun s hs => by cases hs⟩

end Script

/-! ### One more line -/

/-- The number of a line once another line is put in before line `n`. -/
def Text.lineWith (n line : Int) : Int := if line < n then line else line + 1

lemma Text.lineWith_of_lt {n line : Int} (h : line < n) : lineWith n line = line := if_pos h

lemma Text.lineWith_of_le {n line : Int} (h : n ≤ line) : lineWith n line = line + 1 :=
  if_neg (by omega)

namespace Command

/-- Lines above the new one keep their numbers. -/
lemma onLines_mapLine_above (line : Int) (ts : List Text) :
    (onLines line ts).map (mapLine (Text.lineWith (line + ts.length))) = onLines line ts :=
  (onLines_mapLine _ fun i hi => Text.lineWith_of_lt (by omega)).symm

/-- The commands with one more line are those without it, moved down from there on. -/
lemma onLines_insert {line : Int} {before after : List Text} {u : Text} {cmd : Command}
    (hcmd : ofLine? (line + before.length) u = some cmd) :
    onLines line (before ++ u :: after) =
      onLines line before ++ cmd :: (onLines (line + before.length) after).map
        (mapLine (Text.lineWith (line + before.length))) := by
  have hafter : onLines (line + before.length + 1) after =
      (onLines (line + before.length) after).map (mapLine (Text.lineWith (line + before.length))) :=
    onLines_mapLine _ fun i _ => (Text.lineWith_of_le (by omega)).trans (by omega)
  rw [onLines_append, onLines, hcmd, hafter]
  rfl

/-- What commands say is the same on other lines. -/
lemma map_said_mapLine (g : Int → Int) (cs : List Command) :
    (cs.map (mapLine g)).map (fun c => (c.token, c.arguments)) =
      cs.map fun c => (c.token, c.arguments) := by
  rw [List.map_map]
  rfl

/-- The first of some commands is no line of a box, whatever their lines are. -/
lemma not_inBox_head {cs : List Command}
    (h : ∀ said ∈ (cs.map fun c => (c.token, c.arguments)).head?,
      said.1 ≠ Keyword.boxText.token ∧ said.1 ≠ Keyword.boxBlank.token) :
    ∀ c ∈ cs.head?, ¬ c.InBox := by
  intro c hc hbox
  obtain ⟨htext, hblank⟩ := h (c.token, c.arguments) (by simp_all)
  rcases hbox with hk | hk
  · exact htext (keyword?_eq_some_iff.mp hk)
  · exact hblank (keyword?_eq_some_iff.mp hk)

end Command

/-- **A line with a command that has no meaning** can be put in where the lines before it do not
complete the script, unless the next command is a line of a message box. The script stays the same,
and so do the commands after it; what is wrong with it stays wrong, one line further down if it is
below. The log of a script tells of one more ignored command. -/
theorem Script.read_with_meaningless {c c' : Cursor} {before after : List Text} {u : Text}
    {cmd : Command} (hc : c.lines = before ++ after) (hc' : c'.lines = before ++ u :: after)
    (hline : c'.line = c.line) (hcmd : Command.ofLine? (c.line + before.length) u = some cmd)
    (hmeaning : ∀ k ∈ Keyword.all, cmd.token ≠ k.token)
    (hnext : ∀ said ∈ (after.filterMap Command.said?).head?,
      said.1 ≠ Keyword.boxText.token ∧ said.1 ≠ Keyword.boxBlank.token)
    (hopen : ∀ s, (read (Cursor.onLines before 0 c.line)).result ≠ .ok s) :
    (read c').result =
      (read c).result.mapError (Fault.mapLine (Text.lineWith (c.line + before.length))) ∧
    ∀ s, (read c).result = .ok s →
      (read c').cursor.stream = (read c).cursor.stream ∧
      Log.Gains cmd ((read c).log.map (Event.mapLine (Text.lineWith (c.line + before.length))))
        (read c').log := by
  set g := Text.lineWith (c.line + before.length) with hg
  have hk : cmd.keyword? = none := by
    refine List.find?_eq_none.mpr fun k hk => ?_
    simpa using (hmeaning k hk).symm
  -- both readings feed a list of commands; without the new one, the second list is the first one
  -- on other lines
  have hfeed : ((read c).reading).mapLine g = body.take Body.empty
      (Command.onLines c.line before ++
        (Command.onLines (c.line + before.length) after).map (Command.mapLine g)) := by
    have hmoved := lineBlind_body.take_mapLine g Body.empty c.commands
    rw [read, Construct.reading_read, ← hmoved, Cursor.commands_eq_onLines, hc,
      Command.onLines_append, List.map_append, Command.onLines_mapLine_above]
  have hfeed' : (read c').reading = body.take Body.empty
      (Command.onLines c.line before ++
        cmd :: (Command.onLines (c.line + before.length) after).map (Command.mapLine g)) := by
    rw [read, Construct.reading_read, Cursor.commands_eq_onLines, hc', hline,
      Command.onLines_insert hcmd]
  have hopen' : ∀ s, (body.take Body.empty (Command.onLines c.line before)).result ≠ .ok s := by
    intro s hs
    have hbefore : (Cursor.onLines before 0 c.line).commands = Command.onLines c.line before := by
      rw [Cursor.commands_eq_onLines]
      cases before <;> rfl
    rw [← hbefore, ← Construct.reading_read] at hs
    exact hopen s hs
  have hnext' : ∀ d ∈ ((Command.onLines (c.line + before.length) after).map
      (Command.mapLine g)).head?, ¬ d.InBox :=
    Command.not_inBox_head (by rwa [Command.map_said_mapLine, Command.map_onLines])
  obtain ⟨hresult, hrest⟩ := take_insert hk hnext' hopen'
  rw [← hfeed, ← hfeed'] at hresult hrest
  refine ⟨hresult, fun s hs => ?_⟩
  obtain ⟨hleft, hlog⟩ := hrest s (by simp only [Reading.mapLine, Outcome.reading, hs]; rfl)
  refine ⟨?_, hlog⟩
  have hstream := congrArg (List.map fun c : Command => (c.token, c.arguments)) hleft
  simp only [Reading.mapLine, Outcome.reading, Command.map_said_mapLine] at hstream
  exact hstream

/-- A box of one blank line is closed by a command without a meaning instead of the end marker. -/
theorem Script.read_closed_by_helptext :
    (read (Cursor.start "//CENTERWINDOW\n//SKLINE\n/// HELPTEXT 1\n\n//END".toList)).result =
      .ok [.single (.messageBox 0 0 0 [[]])] ∧
    Log.Gains ⟨"HELPTEXT".toList, " 1".toList, 3⟩ [.boxEnds "END".toList 5]
      (read (Cursor.start "//CENTERWINDOW\n//SKLINE\n/// HELPTEXT 1\n\n//END".toList)).log := by
  obtain ⟨hresult, hlog⟩ :
      let o := read (Cursor.start "//CENTERWINDOW\n//SKLINE\n\n//END".toList)
      o.result = .ok [.single (.messageBox 0 0 0 [[]])] ∧ o.log = [.boxEnds "END".toList 4] := by
    decide +kernel
  have hopen : (read (Cursor.onLines ["//CENTERWINDOW".toList, "//SKLINE".toList] 0 1)).result =
      .error (.unterminated "END".toList) := by
    decide +kernel
  have hline : (Cursor.start "//CENTERWINDOW\n//SKLINE\n\n//END".toList).line = 1 := by
    decide +kernel
  have hline' : (Cursor.start "//CENTERWINDOW\n//SKLINE\n/// HELPTEXT 1\n\n//END".toList).line =
      1 := by
    decide +kernel
  have hlines : (Cursor.start "//CENTERWINDOW\n//SKLINE\n\n//END".toList).lines =
      ["//CENTERWINDOW".toList, "//SKLINE".toList] ++ [[], "//END".toList] := by
    decide +kernel
  have hlines' :
      (Cursor.start "//CENTERWINDOW\n//SKLINE\n/// HELPTEXT 1\n\n//END".toList).lines =
        ["//CENTERWINDOW".toList, "//SKLINE".toList] ++
          "/// HELPTEXT 1".toList :: [[], "//END".toList] := by
    decide +kernel
  have hcmd : Command.ofLine? (1 + ["//CENTERWINDOW".toList, "//SKLINE".toList].length)
      "/// HELPTEXT 1".toList = some ⟨"HELPTEXT".toList, " 1".toList, 3⟩ := by
    decide +kernel
  obtain ⟨hsame, hrest⟩ := read_with_meaningless hlines hlines' (hline'.trans hline.symm)
    (by rw [hline]; exact hcmd) (by decide +kernel) (by decide +kernel)
    (fun s hs => by rw [hline, hopen] at hs; cases hs)
  rw [hresult] at hsame
  obtain ⟨-, hgains⟩ := hrest _ hresult
  rw [hlog, hline] at hgains
  exact ⟨hsame, hgains⟩

end Cutscene
