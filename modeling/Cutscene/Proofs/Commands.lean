import Cutscene.Proofs.Blanks
import Cutscene.Proofs.LineNumbers

/-!
A construct reads the commands ahead and nothing else.

What is ahead of a position is a list of commands, and reading takes them one by one. So prose,
blank lines and the way a command is set are out of sight for every construct; only the numbers of
lines tell two texts with the same commands apart, and they show in faults and events alone.
-/

namespace Cutscene

namespace Cursor

/-- All commands from a position on. -/
def commands (c : Cursor) : List Command := c.upcoming.map Prod.fst

/-- What the commands from a position on say: the token of each, and its arguments. -/
def stream (c : Cursor) : List (Text × Text) :=
  c.commands.map fun cmd => (cmd.token, cmd.arguments)

lemma upcoming_eq_append (c : Cursor) :
    c.upcoming = (Command.ofLine? c.line c.current).toList.map (fun cmd => (cmd, c.nextLine)) ++
      c.nextLine.upcoming := by
  obtain ⟨current, below, offset, line⟩ := c
  cases below with
  | nil => exact (List.append_nil _).symm
  | cons next below => rfl

/-- The position after a command has the commands after it ahead. -/
lemma upcoming_of_cons {c next : Cursor} {cmd : Command} {ahead : List (Command × Cursor)}
    (h : c.upcoming = (cmd, next) :: ahead) : next.upcoming = ahead := by
  -- by induction on the lines below; the command is on this line or further down
  obtain ⟨current, below, offset, line⟩ := c
  induction below generalizing current offset line with
  | nil =>
    rw [upcoming_eq_append] at h
    rcases hc : Command.ofLine? line current with _ | first <;> simp only [hc] at h
    · cases h
    · cases h
      rfl
  | cons below' below ih =>
    rw [upcoming_eq_append] at h
    rcases hc : Command.ofLine? line current with _ | first <;> simp only [hc] at h
    · exact ih _ _ _ h
    · cases h
      rfl

/-- Reading a command takes the first of those ahead. -/
lemma upcoming_of_command? {c next : Cursor} {cmd : Command} (h : c.command? = some (cmd, next)) :
    c.upcoming = (cmd, next) :: next.upcoming := by
  rw [command?_eq_head?] at h
  obtain ⟨ahead, hahead⟩ := List.head?_eq_some_iff.mp h
  rw [hahead, upcoming_of_cons hahead]

lemma command?_of_upcoming {c next : Cursor} {cmd : Command} {ahead : List (Command × Cursor)}
    (h : c.upcoming = (cmd, next) :: ahead) : c.command? = some (cmd, next) := by
  rw [command?_eq_head?, h]
  rfl

lemma upcoming_of_command?_eq_none {c : Cursor} (h : c.command? = none) : c.upcoming = [] := by
  rwa [command?_eq_head?, List.head?_eq_none_iff] at h

/-- **The commands ahead** are those that one gets by reading a command again and again. -/
lemma commands_eq (c : Cursor) :
    c.commands =
      match c.command? with
      | none => []
      | some (cmd, next) => cmd :: next.commands := by
  unfold commands
  rcases h : c.command? with _ | ⟨cmd, next⟩
  · rw [upcoming_of_command?_eq_none h, List.map_nil]
  · rw [upcoming_of_command? h, List.map_cons]

lemma commands_of_command? {c next : Cursor} {cmd : Command} (h : c.command? = some (cmd, next)) :
    c.commands = cmd :: next.commands := by
  rw [commands_eq, h]

/-- Nothing is ahead of the end. -/
lemma upcoming_toEnd (c : Cursor) : c.toEnd.upcoming = [] := by
  obtain ⟨current, below, offset, line⟩ := c
  unfold toEnd
  induction below generalizing current offset line with
  | nil => rfl
  | cons next below ih => exact ih _ _ _

lemma stream_eq_map (c : Cursor) :
    c.stream = c.upcoming.map fun p => (p.1.token, p.1.arguments) := by
  simp only [stream, commands, List.map_map]
  rfl

end Cursor

/-! ### Layout -/

/-- What a line says: the token of the command on it, and the arguments. Prose says nothing. -/
def Command.said? (t : Text) : Option (Text × Text) :=
  (ofLine? 0 t).map fun c => (c.token, c.arguments)

lemma Command.said?_eq (line : Int) (t : Text) :
    said? t = (ofLine? line t).map fun c => (c.token, c.arguments) := by
  unfold said? ofLine?
  split <;> rfl

lemma Command.said?_of_prose {t : Text} (h : isCommand t = false) : said? t = none := by
  simp [said?, ofLine?, h]

/-- A stream is what the lines say, from the position on. -/
lemma Cursor.stream_eq_filterMap (c : Cursor) : c.stream = c.lines.filterMap Command.said? := by
  obtain ⟨current, below, offset, line⟩ := c
  rw [stream_eq_map]
  induction below generalizing current offset line with
  | nil =>
    simp only [lines, List.filterMap_cons, Command.said?_eq line]
    cases h : Command.ofLine? line current <;> simp [upcoming, upcomingFrom, h]
  | cons next below ih =>
    have hrest := ih next (offset + current.length + 1) (line + 1)
    rw [upcoming_eq_append, List.map_append]
    simp only [nextLine, lines, List.filterMap_cons (a := current), Command.said?_eq line] at hrest ⊢
    rw [hrest]
    cases Command.ofLine? line current <;> rfl

/-- The same commands in another layout: prose and blank lines come and go, and a command may be
indented, have more slashes in front, and blanks between them and its token. -/
inductive Text.Relaid : List Text → List Text → Prop
  | nil : Relaid [] []
  | same (t : Text) {ts us : List Text} (h : Relaid ts us) : Relaid (t :: ts) (t :: us)
  | proseLeft {t : Text} {ts us : List Text} (ht : Command.isCommand t = false)
      (h : Relaid ts us) : Relaid (t :: ts) us
  | proseRight {u : Text} {ts us : List Text} (hu : Command.isCommand u = false)
      (h : Relaid ts us) : Relaid ts (u :: us)
  | set {indent gap body : Text} {n : Nat} {ts us : List Text}
      (hindent : ∀ c ∈ indent, isBlank c = true) (hgap : ∀ c ∈ gap, isBlank c = true)
      (hbody : ∀ c ∈ body.head?, c ≠ '/') (h : Relaid ts us) :
      Relaid ((indent ++ (List.replicate (n + 2) '/' ++ (gap ++ body))) :: ts)
        (('/' :: '/' :: body) :: us)

/-- Trimming a command takes what stands before its slashes, and nothing of them. -/
lemma Text.trim_slashes {indent : Text} (n : Nat) (rest : Text)
    (hindent : ∀ c ∈ indent, isBlank c = true) :
    trim (indent ++ (List.replicate (n + 2) '/' ++ rest)) =
      List.replicate (n + 2) '/' ++ trimEnd rest := by
  have hhead : ∀ c ∈ (List.replicate (n + 2) '/' ++ rest).head?, isBlank c = false := by
    rintro c ⟨⟩
    rfl
  have hlast : ∀ c ∈ (List.replicate (n + 2) '/').getLast?, isBlank c = false := by
    intro c hc
    rw [List.eq_of_mem_replicate (List.mem_of_getLast? hc)]
    rfl
  rw [trim, dropBlanks_append hindent hhead, trimEnd_append_of_visible hlast]

/-- Blanks between the slashes and the token do not count. -/
lemma Text.dropBlanks_dropSlashes_trimEnd {gap body : Text} (hgap : ∀ c ∈ gap, isBlank c = true)
    (hbody : ∀ c ∈ body.head?, c ≠ '/') :
    dropBlanks (dropSlashes (trimEnd (gap ++ body))) = dropBlanks (trimEnd body) := by
  by_cases hnil : trimEnd body = []
  · have hall : trimEnd (gap ++ body) = [] :=
      trimEnd_eq_nil_iff.mpr (List.forall_mem_append.mpr ⟨hgap, trimEnd_eq_nil_iff.mp hnil⟩)
    rw [hall, hnil]
    rfl
  · have hslash : dropSlashes (gap ++ trimEnd body) = gap ++ trimEnd body := by
      refine dropWhile_append (s := []) (by simp) fun c hc => ?_
      have hne : c ≠ '/' := by
        cases gap with
        | nil => exact hbody c (head?_trimEnd hc)
        | cons d gap =>
          obtain rfl : d = c := Option.some.inj hc
          rintro rfl
          cases hgap _ List.mem_cons_self
      simpa using hne
    rw [trimEnd_append hnil, hslash, dropBlanks, List.dropWhile_append_of_pos hgap]
    rfl

lemma Command.ofLine?_set {indent gap body : Text} (n : Nat) (line : Int)
    (hindent : ∀ c ∈ indent, Text.isBlank c = true) (hgap : ∀ c ∈ gap, Text.isBlank c = true)
    (hbody : ∀ c ∈ body.head?, c ≠ '/') :
    ofLine? line (indent ++ (List.replicate (n + 2) '/' ++ (gap ++ body))) =
      some ⟨Text.word (Text.dropBlanks (Text.trimEnd body)),
        Text.afterWord (Text.dropBlanks (Text.trimEnd body)), line⟩ := by
  have htrim := Text.trim_slashes n (gap ++ body) hindent
  have hcommand : isCommand (indent ++ (List.replicate (n + 2) '/' ++ (gap ++ body))) = true := by
    rw [isCommand, htrim]
    rfl
  have hslashes : Text.dropSlashes (List.replicate (n + 2) '/' ++ Text.trimEnd (gap ++ body)) =
      Text.dropSlashes (Text.trimEnd (gap ++ body)) :=
    List.dropWhile_append_of_pos fun c hc => by simp [List.eq_of_mem_replicate hc]
  rw [ofLine?, if_pos hcommand, htrim, hslashes, Text.dropBlanks_dropSlashes_trimEnd hgap hbody]

/-- The way a command is set does not change what it says. -/
lemma Command.said?_set {indent gap body : Text} (n : Nat)
    (hindent : ∀ c ∈ indent, Text.isBlank c = true) (hgap : ∀ c ∈ gap, Text.isBlank c = true)
    (hbody : ∀ c ∈ body.head?, c ≠ '/') :
    said? (indent ++ (List.replicate (n + 2) '/' ++ (gap ++ body))) =
      said? ('/' :: '/' :: body) := by
  have hplain := @ofLine?_set [] [] body 0 0 (by simp) (by simp) hbody
  rw [said?, ofLine?_set n 0 hindent hgap hbody, said?]
  exact congrArg _ hplain.symm

lemma Text.Relaid.filterMap_said? {ts us : List Text} (h : Relaid ts us) :
    ts.filterMap Command.said? = us.filterMap Command.said? := by
  induction h with
  | nil => rfl
  | same t h ih => simp only [List.filterMap_cons, ih]
  | proseLeft ht h ih => rw [List.filterMap_cons, Command.said?_of_prose ht, ih]
  | proseRight hu h ih => rw [List.filterMap_cons, Command.said?_of_prose hu, ih]
  | set hindent hgap hbody h ih =>
    rw [List.filterMap_cons, List.filterMap_cons, Command.said?_set _ hindent hgap hbody, ih]

/-! ### Two readings of the same commands -/

def Fault.line? : Fault → Option Int
  | .script e => e.line
  | _ => none

/-- The same fault, without a line or with the lines of the commands at one place of the two
lists. -/
def Fault.Alike (cs ds : List Command) (e f : Fault) : Prop :=
  (e.line? = none ∧ f = e) ∨
    ∃ (i : Nat) (a b : Command), cs[i]? = some a ∧ ds[i]? = some b ∧ e.line? = some a.line ∧
      f = e.mapLine fun _ => b.line

/-- The same result and the same commands ahead, or the same fault. -/
inductive Outcome.Alike {α : Type} (cs ds : List Command) (o p : Outcome α) : Prop
  | ok {a : α} (left : o.result = .ok a) (right : p.result = .ok a)
      (stream : o.cursor.stream = p.cursor.stream)
  | error {e f : Fault} (left : o.result = .error e) (right : p.result = .error f)
      (fault : Fault.Alike cs ds e f)

lemma Fault.Alike.cons {cs ds : List Command} {e f : Fault} (a b : Command)
    (h : Alike cs ds e f) : Alike (a :: cs) (b :: ds) e f :=
  h.imp_right fun ⟨i, a', b', ha, hb, h⟩ => ⟨i + 1, a', b', ha, hb, h⟩

lemma Outcome.Alike.cons {α : Type} {cs ds : List Command} {o p : Outcome α} (a b : Command)
    (log log' : Log) (h : Alike cs ds o p) :
    Alike (a :: cs) (b :: ds) (o.after log) (p.after log') := by
  cases h with
  | ok left right stream => exact .ok left right stream
  | error left right fault => exact .error left right (fault.cons a b)

/-- The construct only carries the lines of commands along, and has none when the input is over. -/
structure Construct.LineBlind {σ α : Type} (k : Construct σ α) : Prop where
  feed : ∀ (g : Int → Int) (s : σ) (c : Command),
    k.feed s (c.mapLine g) = Reply.mapLines g (k.feed s c)
  finish : ∀ (s : σ) (e : Fault), k.finish s = .error e → e.line? = none

lemma Script.lineBlind_body : body.LineBlind := ⟨Body.feed_mapLine, fun _ _ h => by cases h; rfl⟩

lemma Command.eq_mapLine {a b : Command} (ht : a.token = b.token)
    (ha : a.arguments = b.arguments) : b = a.mapLine fun _ => b.line := by
  obtain ⟨token, arguments, line⟩ := a
  obtain ⟨token', arguments', line'⟩ := b
  obtain rfl : token = token' := ht
  obtain rfl : arguments = arguments' := ha
  rfl

namespace Construct

variable {σ α : Type} {k : Construct σ α}

/-- A fault names no line, or the line of the command that caused it. -/
lemma LineBlind.line?_of_fail (hk : k.LineBlind) {s : σ} {c : Command} {e : Fault} {log : Log}
    (h : k.feed s c = (.fail e, log)) : e.line? = none ∨ e.line? = some c.line := by
  -- moving every line to the command's own changes nothing, so it cannot change the fault
  have hc : c.mapLine (fun _ => c.line) = c := rfl
  have hfeed := hk.feed (fun _ => c.line) s c
  rw [hc, h] at hfeed
  have he : e = e.mapLine fun _ => c.line := by
    simpa [Reply.mapLines, Reply.mapLine] using congrArg Prod.fst hfeed
  rcases e with ⟨cause, command, _ | n⟩ | _ | _ | _
  · exact .inl rfl
  · exact .inr (congrArg Fault.line? he)
  · exact .inl rfl
  · exact .inl rfl
  · exact .inl rfl

lemma Fault.Alike.of_fail (hk : k.LineBlind) {s : σ} {a b : Command} {e : Fault} {log : Log}
    (h : k.feed s a = (.fail e, log)) (cs ds : List Command) :
    Fault.Alike (a :: cs) (b :: ds) e (e.mapLine fun _ => b.line) := by
  rcases hk.line?_of_fail h with hline | hline
  · refine .inl ⟨hline, ?_⟩
    rcases e with ⟨cause, command, _ | n⟩ | _ | _ | _
    · rfl
    · cases hline
    · rfl
    · rfl
    · rfl
  · exact .inr ⟨0, a, b, rfl, rfl, hline, rfl⟩

/-- **Two texts with the same commands** are the same to a construct, whatever state it is in. -/
theorem LineBlind.read_alike (hk : k.LineBlind) (s : σ) {c d : Cursor} (h : c.stream = d.stream) :
    Outcome.Alike c.commands d.commands (k.read s c) (k.read s d) := by
  unfold Construct.read Cursor.commands
  -- by induction on the commands ahead of the first position; the other has as many
  induction hc : c.upcoming generalizing s c d with
  | nil =>
    have hd : d.upcoming = [] := by
      rw [Cursor.stream_eq_map, Cursor.stream_eq_map, hc] at h
      exact List.map_eq_nil_iff.mp h.symm
    rw [hd]
    rcases hfinish : k.finish s with e | a
    · exact .error hfinish hfinish (.inl ⟨hk.finish s e hfinish, rfl⟩)
    · refine .ok hfinish hfinish ?_
      simp only [run, Cursor.stream_eq_map, Cursor.upcoming_toEnd]
  | cons first ahead ih =>
    obtain ⟨a, next⟩ := first
    have hstream := h
    rw [Cursor.stream_eq_map, Cursor.stream_eq_map, hc] at hstream
    obtain ⟨⟨b, next'⟩, ahead', hd, hab, hrest⟩ := List.map_eq_cons_iff.mp hstream.symm
    have hnext := Cursor.upcoming_of_cons hc
    have hnext' := Cursor.upcoming_of_cons hd
    have hahead : next.stream = next'.stream := by
      rw [Cursor.stream_eq_map, Cursor.stream_eq_map, hnext, hnext', hrest]
    obtain ⟨ht, ha⟩ := Prod.mk.inj hab
    have hfeed : k.feed s b = Reply.mapLines (fun _ => b.line) (k.feed s a) := by
      rw [← hk.feed, ← Command.eq_mapLine ht.symm ha.symm]
    rw [hd]
    simp only [run, hfeed, List.map_cons]
    rcases hreply : k.feed s a with ⟨s' | r | r | e, log⟩
    · have := ih s' hahead hnext
      rw [hnext'] at this
      exact this.cons a b _ _
    · exact .ok rfl rfl hahead
    · exact .ok rfl rfl h
    · exact .error rfl rfl (Fault.Alike.of_fail hk hreply _ _)

end Construct

/-! ### Scripts -/

/-- The words at the end of a message that name its line. -/
def ScriptError.lineNote : Option Int → Text
  | none => []
  | some n => " (line ".toList ++ Text.ofInt n ++ ")".toList

lemma ScriptError.message_eq (e : ScriptError) : e.message = e.reason ++ lineNote e.line := by
  unfold message lineNote
  cases e.line with
  | none => exact (List.append_nil _).symm
  | some n => simp only [List.append_assoc]

/-- The two errors are of one kind, about one command and in the same words. Their lines are those
of the commands at one place of the two lists, unless they have none. -/
structure ScriptError.Alike (cs ds : List Command) (e f : ScriptError) : Prop where
  kind : f.kind = e.kind
  command : f.command = e.command
  message : ∃ reason, e.message = reason ++ lineNote e.line ∧ f.message = reason ++ lineNote f.line
  line : (e.line = none ∧ f.line = none) ∨
    ∃ (i : Nat) (a b : Command), cs[i]? = some a ∧ ds[i]? = some b ∧
      e.line = some a.line ∧ f.line = some b.line

lemma ScriptError.Alike.of_fault {cs ds : List Command} {e : ScriptError} {f : Fault}
    (h : Fault.Alike cs ds (.script e) f) : ∃ f', f = .script f' ∧ Alike cs ds e f' := by
  rcases h with ⟨hnone, rfl⟩ | ⟨i, a, b, ha, hb, hline, rfl⟩
  · exact ⟨e, rfl, rfl, rfl, ⟨e.reason, e.message_eq, e.message_eq⟩, .inl ⟨hnone, hnone⟩⟩
  · have hline : e.line = some a.line := hline
    refine ⟨{ e with line := e.line.map fun _ => b.line }, rfl, rfl, rfl, ?_, ?_⟩
    · exact ⟨e.reason, e.message_eq, message_eq _⟩
    · exact .inr ⟨i, a, b, ha, hb, hline, by rw [hline]; rfl⟩

/-- **A script means its commands.** Two positions with the same commands ahead, in whatever texts
and on whatever lines, have the same script ahead, and after it the same commands again; or reading
it fails at both, with faults that are alike. Another layout leaves the commands the same. -/
theorem Script.read_of_stream_eq :
    (∀ c d : Cursor, c.stream = d.stream →
      (∃ s, (read c).result = .ok s ∧ (read d).result = .ok s ∧
        (read c).cursor.stream = (read d).cursor.stream) ∨
      (∃ e f, (read c).result = .error (.script e) ∧ (read d).result = .error (.script f) ∧
        ScriptError.Alike c.commands d.commands e f) ∨
      ∃ f, (∀ e, f ≠ .script e) ∧ (read c).result = .error f ∧ (read d).result = .error f) ∧
    ∀ c d : Cursor, Text.Relaid c.lines d.lines → c.stream = d.stream := by
  constructor
  · intro c d h
    cases lineBlind_body.read_alike Body.empty h with
    | ok left right stream => exact .inl ⟨_, left, right, stream⟩
    | @error e f left right fault =>
      cases e with
      | script e =>
        obtain ⟨f', rfl, halike⟩ := ScriptError.Alike.of_fault fault
        exact .inr (.inl ⟨e, f', left, right, halike⟩)
      | _ =>
        rcases fault with ⟨-, rfl⟩ | ⟨i, a, b, -, -, hline, -⟩
        · exact .inr (.inr ⟨_, by simp, left, right⟩)
        · cases hline
  · intro c d h
    rw [Cursor.stream_eq_filterMap, Cursor.stream_eq_filterMap, h.filterMap_said?]

/-- A number is out of range on a page, in two texts that look different. -/
theorem Script.read_delay_relaid :
    ∃ e f, (read (Cursor.seek "A //// PAGESSTART\nor\n\t///DELAY 0".toList 1 7)).result =
        .error (.script e) ∧
      (read (Cursor.start "//PAGESSTART\n//DELAY 0".toList)).result = .error (.script f) ∧
      f.kind = e.kind ∧ f.command = e.command ∧ e.line = some 9 ∧ f.line = some 2 := by
  have hlines : (Cursor.seek "A //// PAGESSTART\nor\n\t///DELAY 0".toList 1 7).lines =
      [" ".toList ++ (List.replicate 4 '/' ++ (" ".toList ++ "PAGESSTART".toList)), "or".toList,
        "\t".toList ++ (List.replicate 3 '/' ++ ([] ++ "DELAY 0".toList))] := by
    decide +kernel
  have hlines' : (Cursor.start "//PAGESSTART\n//DELAY 0".toList).lines =
      ['/' :: '/' :: "PAGESSTART".toList, '/' :: '/' :: "DELAY 0".toList] := by
    decide +kernel
  have hresult : (read (Cursor.seek "A //// PAGESSTART\nor\n\t///DELAY 0".toList 1 7)).result =
      .error (.script ⟨.badArgument, some "DELAY".toList, some 9⟩) := by
    decide +kernel
  have hresult' : (read (Cursor.start "//PAGESSTART\n//DELAY 0".toList)).result =
      .error (.script ⟨.badArgument, some "DELAY".toList, some 2⟩) := by
    decide +kernel
  have hrelaid : Text.Relaid
      (Cursor.seek "A //// PAGESSTART\nor\n\t///DELAY 0".toList 1 7).lines
      (Cursor.start "//PAGESSTART\n//DELAY 0".toList).lines := by
    rw [hlines, hlines']
    refine .set (by simp [Text.isBlank]) (by simp [Text.isBlank]) (by simp) ?_
    exact .proseLeft (by decide) (.set (by simp [Text.isBlank]) (by simp) (by simp) .nil)
  rcases read_of_stream_eq.1 _ _ (read_of_stream_eq.2 _ _ hrelaid) with
    ⟨s, hs, -⟩ | ⟨e, f, he, hf, halike⟩ | ⟨f, hf, he, -⟩
  · rw [hresult] at hs
    cases hs
  · refine ⟨e, f, he, hf, halike.kind, halike.command, ?_, ?_⟩
    · rw [hresult] at he
      cases he
      rfl
    · rw [hresult'] at hf
      cases hf
      rfl
  · rw [hresult] at he
    cases he
    exact absurd rfl (hf _)

end Cutscene
