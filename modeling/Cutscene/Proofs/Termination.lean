import Cutscene.Proofs.Progress
import Cutscene.Reading.Stream

/-!
Every loop of the reading comes to an end.

A loop is written down as what it does in one turn: it goes on from another position, or it is over.
A turn after which the loop goes on leaves fewer characters to read, so there are no more turns than
characters, well-formed or not. What the loops end with is what is read.
-/

namespace Cutscene

/-- What one turn of a loop comes to. -/
inductive Turn (σ α : Type)
  | again (state : σ) (next : Cursor)
  | stop (result : Except Fault α) (next : Cursor)

namespace Turn

variable {σ α : Type} (f : σ → Cursor → Except Fault α × Cursor)

/-- What comes of a turn, if what comes of the turns after it is known. -/
def followedBy : Turn σ α → Except Fault α × Cursor
  | again s c => f s c
  | stop r c => (r, c)

@[simp] lemma followedBy_again (s : σ) (c : Cursor) : (again s c).followedBy f = f s c := rfl

@[simp] lemma followedBy_stop (r : Except Fault α) (c : Cursor) :
    (stop r c).followedBy f = (r, c) := rfl

end Turn

/-- A loop that moves a cursor, given by one of its turns. -/
structure Loop (σ α : Type) where
  turn : σ → Cursor → Turn σ α

namespace Loop

variable {σ α : Type} {l : Loop σ α}

/-- From a state and a position, the loop is over after so many turns, with a result and at a
position. -/
inductive Ends (l : Loop σ α) : Nat → σ → Cursor → Except Fault α → Cursor → Prop
  | stop {s : σ} {c d : Cursor} {r : Except Fault α} (h : l.turn s c = .stop r d) : Ends l 1 s c r d
  | again {n : Nat} {s s' : σ} {c c' d : Cursor} {r : Except Fault α}
      (h : l.turn s c = .again s' c') (rest : Ends l n s' c' r d) : Ends l (n + 1) s c r d

/-- Whenever the loop goes on, it has taken at least so many characters. -/
def Advances (l : Loop σ α) (m : Nat) : Prop :=
  ∀ s c s' d, l.turn s c = .again s' d → ∃ n, Cursor.FurtherBy n c d ∧ m ≤ n

/-- The loop ends, and each of its turns but the last one has its share of what is left to read. -/
def EndsBy (l : Loop σ α) (m : Nat) (s : σ) (c : Cursor) (r : Except Fault α) (d : Cursor) : Prop :=
  ∃ n, l.Ends n s c r d ∧ m * n ≤ c.remaining + m

/-- **A loop that advances ends**, from every state and every position. -/
lemma Advances.exists_endsBy {m : Nat} (hl : l.Advances m) (hm : 0 < m) (s : σ) (c : Cursor) :
    ∃ r d, l.EndsBy m s c r d := by
  -- by induction on what is left to read
  induction hn : c.remaining using Nat.strong_induction_on generalizing s c with
  | _ left ih =>
    rcases hturn : l.turn s c with ⟨s', c'⟩ | ⟨r, d⟩
    · obtain ⟨k, hk, hle⟩ := hl _ _ _ _ hturn
      have hremaining := hk.remaining
      obtain ⟨r, d, n, hends, hbound⟩ := ih c'.remaining (by omega) s' c' rfl
      refine ⟨r, d, n + 1, .again hturn hends, ?_⟩
      rw [Nat.mul_succ]
      omega
    · exact ⟨r, d, 1, .stop hturn, by omega⟩

/-- A loop ends with whatever satisfies its equation. -/
lemma Ends.eq_of_equation {f : σ → Cursor → Except Fault α × Cursor}
    (hf : ∀ s c, f s c = (l.turn s c).followedBy f)
    {n : Nat} {s : σ} {c d : Cursor} {r : Except Fault α} (h : l.Ends n s c r d) :
    f s c = (r, d) := by
  induction h with
  | stop h => rw [hf, h, Turn.followedBy_stop]
  | again h rest ih => rw [hf, h, Turn.followedBy_again, ih]

lemma Advances.endsBy {m : Nat} (hl : l.Advances m) (hm : 0 < m)
    {f : σ → Cursor → Except Fault α × Cursor}
    (hf : ∀ s c, f s c = (l.turn s c).followedBy f) (s : σ) (c : Cursor) :
    l.EndsBy m s c (f s c).1 (f s c).2 := by
  obtain ⟨r, d, n, hends, hbound⟩ := hl.exists_endsBy hm s c
  rw [hends.eq_of_equation hf]
  exact ⟨n, hends, hbound⟩

end Loop

/-! ### Commands -/

namespace Cursor

/-- Line after line is read until one is a command. -/
def commandLoop : Loop Unit (Option Command) where
  turn _ c :=
    match c.line? with
    | none => .stop (.ok none) c
    | some (t, next) =>
      match Command.ofLine? c.line t with
      | none => .again () next
      | some cmd => .stop (.ok (some cmd)) next

/-- The next command and the position after it, or the end if there is none. -/
def nextCommand (c : Cursor) : Except Fault (Option Command) × Cursor :=
  match c.command? with
  | none => (.ok none, c.toEnd)
  | some (cmd, next) => (.ok (some cmd), next)

lemma commandLoop_advances : commandLoop.Advances 1 := by
  intro _ c _ d h
  simp only [commandLoop, line?] at h
  by_cases hend : c.atEnd = true
  · rw [if_pos hend] at h
    cases h
  · rw [if_neg hend] at h
    rcases hc : Command.ofLine? c.line c.current with _ | cmd <;> simp only [hc] at h <;> cases h
    obtain ⟨n, hn, hle, hlt⟩ := c.furtherBy_nextLine
    refine ⟨n, hn, Nat.pos_of_ne_zero fun hzero => hend ?_⟩
    -- nothing was taken, so this line is empty and there is none after it
    have hnext : c.nextLine.atEnd = true := hlt.resolve_right (by omega)
    have := remaining_eq_zero_iff.mpr hnext
    have := hn.remaining
    exact remaining_eq_zero_iff.mp (by omega)

lemma nextCommand_eq (s : Unit) (c : Cursor) :
    c.nextCommand = (commandLoop.turn s c).followedBy fun _ => nextCommand := by
  obtain ⟨current, below, offset, line⟩ := c
  simp only [commandLoop, line?, nextCommand, command?]
  by_cases hend : atEnd ⟨current, below, offset, line⟩ = true
  · obtain ⟨rfl, rfl⟩ : current = [] ∧ below = [] := (atEnd_iff _).mp hend
    rfl
  · rw [if_neg hend]
    conv_lhs => unfold commandFrom?
    rcases hc : Command.ofLine? line current with _ | cmd
    · simp only [hc]
      cases below <;> rfl
    · simp only [hc, Turn.followedBy_stop]

end Cursor

/-! ### Constructs -/

namespace CommandStream

/-- Commands are taken from a stream until it is over. Whoever takes them may read on in between. -/
def loop (use : Command → Cursor → Cursor) :
    Loop (CommandStream × List Command) (List Command) where
  turn := fun (s, cs) c =>
    match s.next c with
    | (.error e, _, d) => .stop (.error e) d
    | (.ok none, _, d) => .stop (.ok cs) d
    | (.ok (some cmd), s', d) => .again (s', cs ++ [cmd]) (use cmd d)

lemma loop_advances {use : Command → Cursor → Cursor}
    (huse : ∀ cmd c, ∃ n, Cursor.FurtherBy n c (use cmd c)) : (loop use).Advances 2 := by
  intro s c s' d h
  obtain ⟨s, cs⟩ := s
  simp only [loop, next] at h
  by_cases hfinished : s.finished = true
  · rw [if_pos hfinished] at h
    cases h
  · rw [if_neg hfinished] at h
    rcases hc : c.command? with _ | ⟨cmd, after⟩ <;> rw [hc] at h
    · cases h
    · obtain ⟨n, hn, hle, -⟩ := Cursor.furtherBy_of_command? hc
      by_cases hmarker : cmd.token = s.marker
      · simp only [if_pos hmarker] at h
        cases h
      · simp only [if_neg hmarker] at h
        cases h
        obtain ⟨m, hm⟩ := huse cmd after
        exact ⟨n + m, hn.trans hm, by omega⟩

end CommandStream

namespace Construct

variable {σ α : Type}

/-- Commands are read and fed to a construct until it is complete, or cannot go on. A command that
it leaves to others is put back. -/
def loop (k : Construct σ α) : Loop σ α where
  turn s c :=
    match c.command? with
    | none => .stop (k.finish s) c.toEnd
    | some (cmd, next) =>
      match (k.feed s cmd).1 with
      | .more s' => .again s' next
      | .done a => .stop (.ok a) next
      | .leave a => .stop (.ok a) c
      | .fail e => .stop (.error e) next

lemma loop_advances (k : Construct σ α) : k.loop.Advances 2 := by
  intro s c s' d h
  simp only [loop] at h
  rcases hc : c.command? with _ | ⟨cmd, next⟩ <;> rw [hc] at h
  · cases h
  · obtain ⟨n, hn, hle, -⟩ := Cursor.furtherBy_of_command? hc
    rcases hfeed : (k.feed s cmd).1 with s'' | a | a | e <;> simp only [hfeed] at h <;> cases h
    exact ⟨n, hn, by omega⟩

/-- **The loop of a construct ends with what is read.** -/
lemma loop_endsBy (k : Construct σ α) (s : σ) (c : Cursor) :
    k.loop.EndsBy 2 s c (k.read s c).result (k.read s c).cursor := by
  refine k.loop_advances.endsBy (by decide)
    (f := fun s c => ((k.read s c).result, (k.read s c).cursor)) (fun s c => ?_) s c
  simp only [loop]
  rcases hc : c.command? with _ | ⟨cmd, next⟩
  · rw [read, Cursor.upcoming_of_command?_eq_none hc]
    rfl
  · rw [read, Cursor.upcoming_of_command? hc]
    rcases hfeed : k.feed s cmd with ⟨s' | a | a | e, log⟩ <;>
      simp only [run, hfeed, Turn.followedBy_stop]
    rfl

end Construct

namespace Script

/-- Commands are read and turned into actions, each with what belongs to it, until the script
ends. -/
def loop : Loop Script Script where
  turn actions c :=
    match c.command? with
    | none => .stop (.error (.unterminated Keyword.scriptEnd.token)) c.toEnd
    | some (cmd, next) =>
      if cmd.keyword? = some .scriptEnd then .stop (.ok actions) next
      else
        match (readActions cmd next).result with
        | .error e => .stop (.error e) (readActions cmd next).cursor
        | .ok new => .again (actions ++ new) (readActions cmd next).cursor

lemma loop_advances : loop.Advances 2 := by
  intro actions c actions' d h
  simp only [loop] at h
  rcases hc : c.command? with _ | ⟨cmd, next⟩ <;> rw [hc] at h
  · cases h
  · obtain ⟨n, hn, hle, -⟩ := Cursor.furtherBy_of_command? hc
    by_cases hk : cmd.keyword? = some .scriptEnd
    · simp only [if_pos hk] at h
      cases h
    · simp only [if_neg hk] at h
      rcases hr : (readActions cmd next).result with e | new <;> simp only [hr] at h <;> cases h
      obtain ⟨m, hm⟩ := furtherBy_readActions cmd next
      exact ⟨n + m, hn.trans hm, by omega⟩

/-- **The loop of a script ends with what is read**, with the loops of boxes and pages inside of its
turns. -/
lemma loop_endsBy (actions : Script) (c : Cursor) :
    loop.EndsBy 2 actions c (readFrom actions c).result (readFrom actions c).cursor := by
  refine loop_advances.endsBy (by decide)
    (f := fun actions c => ((readFrom actions c).result, (readFrom actions c).cursor))
    (fun actions c => ?_) actions c
  simp only [loop]
  rw [readFrom_eq]
  rcases hc : c.command? with _ | ⟨cmd, next⟩
  · rfl
  · by_cases hk : cmd.keyword? = some .scriptEnd
    · simp only [if_pos hk, Turn.followedBy_stop]
    · simp only [if_neg hk, Outcome.andThen]
      rcases hr : (readActions cmd next).result with e | new <;> rfl

end Script

/-! ### Whole texts -/

lemma Cursor.atEnd_word {c : Cursor} (h : c.word.1 = []) : c.word.2.atEnd = true := by
  obtain ⟨blanks, line, -, -, hword, hcurrent, -, hend⟩ := c.exists_line_of_word
  have hnil : Text.dropBlanks line = [] := Text.word_dropBlanks_eq_nil_iff.mp (hword.symm.trans h)
  have hrest : c.word.2.current = [] := by
    rw [hcurrent, hnil]
    rfl
  exact (Cursor.atEnd_iff _).mpr ⟨hrest, hend hnil⟩

lemma List.nodup_eraseDups (names : List Text) : names.eraseDups.Nodup := by
  induction names using List.reverseRecOn with
  | nil => exact List.nodup_nil
  | append_singleton names name ih =>
    rw [List.eraseDups_concat]
    split
    · exact ih
    · rename_i hfresh
      refine List.nodup_append.mpr ⟨ih, List.nodup_singleton _, ?_⟩
      rintro other hother _ hname rfl
      rw [List.mem_singleton.mp hname, List.mem_eraseDups] at hother
      exact hfresh hother

namespace Catalog

/-- A catalog is told by its names and their scripts. -/
lemma eq_of_find? {k l : Catalog} (hnames : k.names = l.names) (hnodup : k.names.Nodup)
    (h : ∀ name, k.find? name = l.find? name) : k = l := by
  obtain ⟨es⟩ := k
  obtain ⟨fs⟩ := l
  simp only [names, find?] at hnames hnodup h
  congr 1
  induction es generalizing fs with
  | nil => exact (List.map_eq_nil_iff.mp hnames.symm).symm
  | cons e es ih =>
    obtain ⟨f, fs, rfl, hname, hrest⟩ := List.map_eq_cons_iff.mp hnames.symm
    obtain ⟨name, s⟩ := e
    obtain ⟨name', s'⟩ := f
    obtain rfl : name' = name := hname
    obtain ⟨hfresh, hnodup⟩ := List.nodup_cons.mp hnodup
    have hfirst : s = s' := by simpa using h name'
    rw [hfirst, ih hnodup fs hrest.symm fun other => ?_]
    by_cases hother : other = name'
    · subst hother
      have hfresh' : other ∉ fs.map Prod.fst := hrest ▸ hfresh
      exact (find?_eq_none (k := ⟨es⟩) hfresh).trans (find?_eq_none (k := ⟨fs⟩) hfresh').symm
    · have hlookup := h other
      rwa [List.lookup_cons, List.lookup_cons, beq_false_of_ne hother] at hlookup

/-- Some blocks make one catalog only. -/
lemma Collects.unique {k l : Catalog} {bs : List Block} (hk : k.Collects bs) (hl : l.Collects bs) :
    k = l := by
  refine eq_of_find? (hk.names.trans hl.names.symm) ?_ fun name => ?_
  · rw [hk.names]
    exact List.nodup_eraseDups _
  · rw [hk.scripts, hl.scripts]

/-- Names and scripts are read in turns until the text ends. Where there are only blanks left, there
is no name, and another turn finds the text at its end. -/
def loop : Loop Catalog Catalog where
  turn k c :=
    if c.atEnd then .stop (.ok k) c
    else if c.word.1 = [] then .again k c.word.2
    else
      match (Script.read c.word.2).result with
      | .error e => .stop (.error e) (Script.read c.word.2).cursor
      | .ok s => .again (k.insert c.word.1 s) (Script.read c.word.2).cursor

/-- What a turn of the loop comes to, case by case. -/
inductive Passes (k : Catalog) (c : Cursor) : Turn Catalog Catalog → Prop
  | ended (h : c.atEnd = true) : Passes k c (.stop (.ok k) c)
  | nameless (h : ¬ c.atEnd = true) (hname : c.word.1 = []) : Passes k c (.again k c.word.2)
  | failed {e : Fault} (hname : c.word.1 ≠ []) (hr : (Script.read c.word.2).result = .error e) :
      Passes k c (.stop (.error e) (Script.read c.word.2).cursor)
  | block {s : Script} (hname : c.word.1 ≠ []) (hr : (Script.read c.word.2).result = .ok s) :
      Passes k c (.again (k.insert c.word.1 s) (Script.read c.word.2).cursor)

lemma passes_turn (k : Catalog) (c : Cursor) : Passes k c (loop.turn k c) := by
  simp only [loop]
  by_cases hend : c.atEnd = true
  · rw [if_pos hend]
    exact .ended hend
  · rw [if_neg hend]
    by_cases hname : c.word.1 = []
    · rw [if_pos hname]
      exact .nameless hend hname
    · rw [if_neg hname]
      rcases hr : (Script.read c.word.2).result with e | s
      · exact .failed hname hr
      · exact .block hname hr

lemma loop_advances : loop.Advances 1 := by
  intro k c k' d h
  have hpasses := passes_turn k c
  rw [h] at hpasses
  cases hpasses with
  | nameless hend hname =>
    obtain ⟨n, hn, -⟩ := c.furtherBy_word
    refine ⟨n, hn, Nat.pos_of_ne_zero fun hzero => hend ?_⟩
    have := Cursor.remaining_eq_zero_iff.mpr (Cursor.atEnd_word hname)
    have := hn.remaining
    exact Cursor.remaining_eq_zero_iff.mp (by omega)
  | block hname hr =>
    obtain ⟨n, hn, hle, -⟩ := Script.furtherBy_of_block hname hr
    exact ⟨n, hn, by omega⟩

/-- **What the loop ends with** is what is loaded line by line. -/
lemma result_of_ends {all : List Text} {m : Loading} {bs : List Block} {k : Catalog} {c d : Cursor}
    {n : Nat} {r : Except Fault Catalog} (hends : loop.Ends n k c r d) (hloaded : m.HasLoaded bs)
    (hat : Loading.At all m c) (hk : k.Collects bs) : (Loading.start.run all).result = r := by
  -- by induction on the turns, of which each takes the loading to the position after it
  induction hends generalizing m bs with
  | @stop k c d r h =>
    have hpasses := passes_turn k c
    rw [h] at hpasses
    cases hpasses with
    | ended hend =>
      have hall := hloaded.atEnd hat (Cursor.word_of_atEnd hend)
      rw [hall.result, hall.catalog.unique hk]
    | failed hname hr =>
      cases hloaded.mirrors hat hname with
      | complete result => cases hr.symm.trans result
      | failed result fails => rw [fails, ← Except.error.inj (hr.symm.trans result)]
  | @again n k k' c c' d r h rest ih =>
    have hpasses := passes_turn k c
    rw [h] at hpasses
    cases hpasses with
    | nameless hend hname =>
      exact ih (hloaded.atEnd hat hname) (.beyond (Cursor.atEnd_word hname)) hk
    | @block s hname hr =>
      cases hloaded.mirrors hat hname with
      | @complete s' m' result place loaded further =>
        obtain rfl : s = s' := Except.ok.inj (hr.symm.trans result)
        exact ih loaded place (hk.concat ⟨c.word.1, s, _⟩)
      | failed result fails => cases hr.symm.trans result

/-- The turns of a loop that loads a catalog are blocks, up to the last one or two. -/
lemma blocks_of_ends {bs : List Block} {k k' : Catalog} {c d : Cursor} {n : Nat}
    (hends : loop.Ends n k c (.ok k') d) (hk : k.Collects bs) :
    ∃ cs e, c.Blocks cs e ∧ e.word.1 = [] ∧ k'.Collects (bs ++ cs) := by
  generalize hr : Except.ok k' = r at hends
  induction hends generalizing bs with
  | @stop k c d r h =>
    have hpasses := passes_turn k c
    rw [h, ← hr] at hpasses
    cases hpasses with
    | ended hend => exact ⟨[], c, .nil c, Cursor.word_of_atEnd hend, by rwa [List.append_nil]⟩
  | @again n k k'' c c' d r h rest ih =>
    have hpasses := passes_turn k c
    rw [h] at hpasses
    cases hpasses with
    | nameless hend hname =>
      obtain ⟨cs, e, hblocks, -, hcollects⟩ := ih hk hr
      cases hblocks with
      | nil => exact ⟨[], c, .nil c, hname, hcollects⟩
      | cons named => exact absurd (Cursor.word_of_atEnd (Cursor.atEnd_word hname)) named
    | @block s hname hresult =>
      obtain ⟨cs, e, hblocks, he, hcollects⟩ :=
        ih (hk.concat ⟨c.word.1, s, (Script.read c.word.2).log⟩) hr
      rw [List.append_assoc] at hcollects
      exact ⟨_, e, .cons hname hresult hblocks, he, hcollects⟩

/-- **The loop of a whole text ends with what is loaded**, and if it loads then it is blocks up to
its last word. -/
lemma loop_endsBy (s : Text) :
    (∃ d, loop.EndsBy 1 empty (Cursor.start s) (load s) d) ∧
      ∀ k, load s = .ok k →
        ∃ bs d, (Cursor.start s).Blocks bs d ∧ d.word.1 = [] ∧ k.Collects bs := by
  have hlines : Text.lines s = [] ++ (Cursor.start s).lines := (Cursor.lines_seek s 0 1).symm
  have hstart : Loading.At (Text.lines s) (Loading.start.run []) (Cursor.start s) :=
    .above hlines (Cursor.line_start s).symm
  obtain ⟨r, d, n, hends, hbound⟩ :=
    loop_advances.exists_endsBy (by decide) empty (Cursor.start s)
  obtain rfl : load s = r := result_of_ends hends Loading.hasLoaded_start hstart .nil
  refine ⟨⟨d, n, hends, hbound⟩, fun k hk => ?_⟩
  rw [hk] at hends
  exact blocks_of_ends hends .nil

end Catalog

/-- **Reading gets on, and comes to an end.** From every position a command leaves the offset
larger, a message box does not leave it smaller though it puts a command back, and pages and scripts
that can be read leave it larger. So every loop ends, with what is read, whether or not the text is
well-formed, and even if whoever takes commands from a stream reads on in between. It has at most
one turn more than it has characters to read, or half as many where a turn takes a command. A text
that loads has eight characters for each of its blocks, except that the last line break may be
missing. -/
theorem reading_terminates :
    (∀ (c next : Cursor) (cmd : Command), c.command? = some (cmd, next) → c.offset < next.offset) ∧
    (∀ c : Cursor, c.offset ≤ (MessageBox.readLines c).cursor.offset) ∧
    (∀ (c : Cursor) (a : Action), (Pages.read c).result = .ok a →
      c.offset < (Pages.read c).cursor.offset) ∧
    (∀ (c : Cursor) (s : Script), (Script.read c).result = .ok s →
      c.offset < (Script.read c).cursor.offset) ∧
    (∀ c : Cursor, Cursor.commandLoop.EndsBy 1 () c c.nextCommand.1 c.nextCommand.2) ∧
    (∀ (s : CommandStream) (use : Command → Cursor → Cursor),
      (∀ cmd c, ∃ n, Cursor.FurtherBy n c (use cmd c)) →
      ∀ c, ∃ r d, (CommandStream.loop use).EndsBy 2 (s, []) c r d) ∧
    (∀ c : Cursor, MessageBox.lines.loop.EndsBy 2 [] c (MessageBox.readLines c).result
      (MessageBox.readLines c).cursor) ∧
    (∀ c : Cursor, Pages.block.loop.EndsBy 2 Pages.empty c (Pages.read c).result
      (Pages.read c).cursor) ∧
    (∀ c : Cursor, Script.loop.EndsBy 2 [] c (Script.read c).result (Script.read c).cursor) ∧
    ∀ s : Text, (∃ d, Catalog.loop.EndsBy 1 .empty (Cursor.start s) (Catalog.load s) d) ∧
      ∀ k, Catalog.load s = .ok k → ∃ bs d, (Cursor.start s).Blocks bs d ∧ d.word.1 = [] ∧
        k.Collects bs ∧ 8 * bs.length ≤ s.length + 1 := by
  refine ⟨?_, ?_, ?_, ?_, ?_, ?_, ?_, ?_, ?_, ?_⟩
  · intro c next cmd h
    obtain ⟨n, hn, hle, -⟩ := Cursor.furtherBy_of_command? h
    exact hn.lt_offset (by omega)
  · intro c
    obtain ⟨n, hn⟩ := MessageBox.lines.furtherBy_read [] c
    exact hn.le_offset
  · intro c a h
    obtain ⟨n, hn, hle, -⟩ := Pages.closedBy_block.furtherBy_of_ok h
    exact hn.lt_offset (by omega)
  · intro c s h
    obtain ⟨n, hn, hle, -⟩ := Script.closedBy_body.furtherBy_of_ok h
    exact hn.lt_offset (by omega)
  · exact fun c => Cursor.commandLoop_advances.endsBy (by decide)
      (f := fun _ => Cursor.nextCommand) Cursor.nextCommand_eq () c
  · intro s use huse c
    exact (CommandStream.loop_advances huse).exists_endsBy (by decide) (s, []) c
  · exact fun c => MessageBox.lines.loop_endsBy [] c
  · exact fun c => Pages.block.loop_endsBy Pages.empty c
  · intro c
    rw [Script.read_eq_readFrom]
    exact Script.loop_endsBy [] c
  · intro s
    obtain ⟨hends, hblocks⟩ := Catalog.loop_endsBy s
    refine ⟨hends, fun k hk => ?_⟩
    obtain ⟨bs, d, hbs, hd, hcollects⟩ := hblocks k hk
    obtain ⟨n, hn, hle⟩ := hbs.furtherBy
    refine ⟨bs, d, hbs, hd, hcollects, ?_⟩
    have := hn.remaining
    rw [Cursor.remaining_start] at this
    omega

/-- A command after prose, a block of pages and a script without anything in them, a stream of two
commands with blank lines skipped between them, and a text of seven characters. -/
theorem reading_terminates_short :
    (∃ next, (Cursor.start "or\n//WAIT".toList).command? = some (⟨"WAIT".toList, [], 2⟩, next) ∧
      0 < next.offset) ∧
    (Pages.read (Cursor.start "//PAGESEND".toList)).result = .ok (.pages [] []) ∧
    0 < (Pages.read (Cursor.start "//PAGESEND".toList)).cursor.offset ∧
    (Script.read (Cursor.start "//END".toList)).result = .ok [] ∧
    0 < (Script.read (Cursor.start "//END".toList)).cursor.offset ∧
    (∃ r d, (CommandStream.loop fun _ c => c.skipBlanks).EndsBy 2 (.toMarker "END".toList, [])
      (Cursor.start "//WAIT\n\n//END".toList) r d) ∧
    ∃ bs d, (Cursor.start "A //END".toList).Blocks bs d ∧
      Catalog.Collects ⟨[("A".toList, [])]⟩ bs ∧ 8 * bs.length ≤ "A //END".toList.length + 1 := by
  obtain ⟨hcommand, -, hpages, hscript, -, hstream, -, -, -, hload⟩ := reading_terminates
  have hnext : (Cursor.start "or\n//WAIT".toList).command? =
      some (⟨"WAIT".toList, [], 2⟩, ⟨[], [], 9, 2⟩) := by
    decide +kernel
  have hpage : (Pages.read (Cursor.start "//PAGESEND".toList)).result = .ok (.pages [] []) := by
    decide +kernel
  have hend : (Script.read (Cursor.start "//END".toList)).result = .ok [] := by decide +kernel
  have hblock : Catalog.load "A //END".toList = .ok ⟨[("A".toList, [])]⟩ := by decide +kernel
  obtain ⟨bs, d, hbs, -, hcollects, hlength⟩ := (hload _).2 _ hblock
  refine ⟨⟨_, hnext, hcommand _ _ _ hnext⟩, hpage, hpages _ _ hpage, hend, hscript _ _ hend, ?_,
    bs, d, hbs, hcollects, hlength⟩
  refine hstream _ _ (fun _ c => ?_) _
  obtain ⟨n, hn, -⟩ := c.furtherBy_skipBlanks
  exact ⟨n, hn⟩

end Cutscene
