import Cutscene.Proofs.Concatenation
import Cutscene.Proofs.Conservation
import Cutscene.Proofs.Nesting

/-!
A file is loaded block by block.

A block is a name and the script after it. To take a word and to read a script, in turns, until
there is no further word, comes to the same as loading a file line by line. What is loaded can be
told from the blocks alone, and so can the log: the names in the order in which they first come up,
each with its last script, and a record of every block.
-/

namespace Cutscene

/-- A script of a file, with its name and what was noted while it was read. -/
structure Block where
  name : Text
  script : Script
  log : Log

namespace Block

/-- The records of a block. The one that tells of its script comes last, after a warning if one of
the blocks before has the same name. -/
def records (earlier : List Text) (b : Block) : Log :=
  b.log ++ (if b.name ∈ earlier then [.redefined b.name] else []) ++
    [.loaded b.name b.script.length]

/-- The records of some blocks, after blocks of the given names. -/
def allRecords (earlier : List Text) : List Block → Log
  | [] => []
  | b :: bs => b.records earlier ++ allRecords (earlier ++ [b.name]) bs

lemma allRecords_append (earlier : List Text) (bs cs : List Block) :
    allRecords earlier (bs ++ cs) =
      allRecords earlier bs ++ allRecords (earlier ++ bs.map name) cs := by
  induction bs generalizing earlier with
  | nil => simp [allRecords]
  | cons b bs ih => simp [allRecords, ih]

end Block

/-- The blocks from one position to another: the first word is a name, and the script after it can
be read. -/
inductive Cursor.Blocks : Cursor → List Block → Cursor → Prop
  | nil (c : Cursor) : Blocks c [] c
  | cons {c d : Cursor} {s : Script} {bs : List Block} (named : c.word.1 ≠ [])
      (complete : (Script.read c.word.2).result = .ok s)
      (rest : Blocks (Script.read c.word.2).cursor bs d) :
      Blocks c (⟨c.word.1, s, (Script.read c.word.2).log⟩ :: bs) d

/-- The catalog that blocks make: every name once, in the order in which the names come up, with the
script of its last block. -/
structure Catalog.Collects (k : Catalog) (bs : List Block) : Prop where
  names : k.names = (bs.map Block.name).eraseDups
  scripts : ∀ name, k.find? name = ((bs.filter fun b => b.name = name).getLast?).map Block.script

/-! ### One more block -/

lemma List.eraseDups_concat (names : List Text) (name : Text) :
    (names ++ [name]).eraseDups =
      if name ∈ names then names.eraseDups else names.eraseDups ++ [name] := by
  rw [List.eraseDups_append, List.cons_removeAll]
  by_cases h : name ∈ names <;> simp [h, List.eraseDups_cons]

namespace Catalog

lemma Collects.nil : empty.Collects [] := ⟨rfl, fun _ => rfl⟩

lemma Collects.mem_names {k : Catalog} {bs : List Block} (h : k.Collects bs) {name : Text} :
    name ∈ k.names ↔ name ∈ bs.map Block.name := by
  rw [h.names, List.mem_eraseDups]

/-- One more block puts its script into the catalog. -/
lemma Collects.concat {k : Catalog} {bs : List Block} (h : k.Collects bs) (b : Block) :
    (k.insert b.name b.script).Collects (bs ++ [b]) where
  names := by
    rw [names_insert, List.map_append, List.map_singleton, List.eraseDups_concat, ← h.names]
    simp only [h.mem_names]
  scripts name := by
    rw [find?_insert, h.scripts, List.filter_append]
    by_cases hname : name = b.name
    · simp [hname]
    · simp [hname, Ne.symm hname]

end Catalog

/-! ### One script -/

namespace Script

/-- Prose is passed over. -/
lemma read_of_prose {b : Body} {c : Cursor} (hc : Command.ofLine? c.line c.current = none) :
    body.read b c = body.read b c.nextLine := by
  have hupcoming : c.upcoming = c.nextLine.upcoming := by
    rw [Cursor.upcoming_eq_append, hc]
    rfl
  unfold Construct.read
  rw [hupcoming]
  rcases c.nextLine.upcoming with _ | ⟨⟨cmd, after⟩, ahead⟩
  · obtain ⟨current, below, offset, line⟩ := c
    cases below <;> rfl
  · -- only a construct that ends before a command stays where it is, and a body does not
    simp only [Construct.run]
    rcases hfeed : body.feed b cmd with ⟨b' | s | s | e, log⟩
    · rfl
    · rfl
    · exact absurd hfeed (Body.feed_ne_leave b cmd s log)
    · rfl

/-- A command is fed to the body, and the reading goes on in the next line. -/
lemma read_of_command {b : Body} {c : Cursor} {cmd : Command}
    (hc : Command.ofLine? c.line c.current = some cmd) :
    body.read b c =
      match b.feed cmd with
      | (.more b', log) => (body.read b' c.nextLine).after log
      | (.done s, log) => ⟨.ok s, c.nextLine, log⟩
      | (.leave s, log) => ⟨.ok s, c, log⟩
      | (.fail e, log) => ⟨.error e, c.nextLine, log⟩ := by
  unfold Construct.read
  rw [Cursor.upcoming_eq_append, hc]
  simp only [Option.toList_some, List.map_cons, List.map_nil, List.cons_append, List.nil_append,
    Construct.run]
  rcases hfeed : b.feed cmd with ⟨b' | s | s | e, log⟩ <;>
    simp only [show body.feed b cmd = _ from hfeed]

end Script

namespace Loading

/-- A loading has come to a position in some lines: it has taken those above, and at the end of the
text the last one too. -/
inductive At (all : List Text) : Loading → Cursor → Prop
  | above {before : List Text} {c : Cursor} (lines : all = before ++ c.lines)
      (line : (start.run before).line = c.line) : At all (start.run before) c
  | beyond {c : Cursor} (h : c.atEnd = true) : At all (start.run all) c

/-- After a line the loading is at the next one. -/
lemma At.nextLine {all before : List Text} {heading : Text} {c : Cursor}
    (hall : all = before ++ heading :: c.below) (hline : (start.run before).line = c.line) :
    At all (start.run (before ++ [heading])) c.nextLine := by
  obtain ⟨current, below, offset, line⟩ := c
  cases below with
  | nil =>
    subst hall
    exact .beyond rfl
  | cons next below =>
    refine .above (by simp [hall, Cursor.nextLine, Cursor.lines]) ?_
    rw [run_append, run_cons, run_nil, line_step, hline]
    rfl

/-- The blocks so far are loaded, and no script is being read. -/
structure HasLoaded (l : Loading) (bs : List Block) : Prop where
  stage : l.stage = .between
  catalog : l.catalog.Collects bs
  log : l.log = Block.allRecords [] bs

lemma hasLoaded_start : start.HasLoaded [] := ⟨rfl, .nil, rfl⟩

/-- A script that is complete is one more block. -/
lemma hasLoaded_complete {l : Loading} {bs : List Block} {log before : Log} {name : Text}
    {s : Script} (hcatalog : l.catalog.Collects bs)
    (hlog : l.log = Block.allRecords [] bs ++ before) :
    (l.complete name s log).HasLoaded (bs ++ [⟨name, s, before ++ log⟩]) where
  stage := rfl
  catalog := hcatalog.concat ⟨name, s, before ++ log⟩
  log := by
    simp only [complete, hcatalog.mem_names, hlog, Block.allRecords_append, Block.allRecords,
      Block.records, List.nil_append, List.append_nil, List.append_assoc]

lemma log_run_of_stopped {l : Loading} {f : Fault} (h : l.stage = .stopped f) (ts : List Text) :
    (l.run ts).log = l.log := by
  induction ts generalizing l with
  | nil => rfl
  | cons t ts ih =>
    rw [run_cons, ih (stage_step_of_stopped h t)]
    simp [step, h, goOn]

/-- What the reading of a script means for the loading of the whole text: the script is one more
block, and the loading is where the reading has left off, further down; or the loading fails as the
reading does. Some of the script's events may have been noted already. -/
inductive Mirrors (all : List Text) (bs : List Block) (name : Text) (noted : Log) (below : Nat)
    (o : Outcome Script) : Prop
  | complete {s : Script} {m : Loading} (result : o.result = .ok s) (place : At all m o.cursor)
      (loaded : m.HasLoaded (bs ++ [⟨name, s, noted ++ o.log⟩]))
      (further : o.cursor.atEnd = true ∨ o.cursor.below.length < below)
  | failed {f : Fault} (result : o.result = .error f) (fails : (start.run all).result = .error f)
      (log : (start.run all).log = Block.allRecords [] bs ++ (noted ++ o.log))

variable {all before : List Text} {bs : List Block} {name heading : Text} {noted log : Log}
  {b : Body} {c : Cursor}

lemma Mirrors.after {n : Nat} {o : Outcome Script} (h : Mirrors all bs name (noted ++ log) n o) :
    Mirrors all bs name noted n (o.after log) := by
  cases h with
  | complete result place loaded further =>
    rw [List.append_assoc] at loaded
    exact .complete result place loaded further
  | failed result fails hlog =>
    rw [List.append_assoc] at hlog
    exact .failed result fails hlog

lemma Mirrors.mono {n n' : Nat} {o : Outcome Script} (h : Mirrors all bs name noted n o)
    (hn : n ≤ n') : Mirrors all bs name noted n' o := by
  cases h with
  | complete result place loaded further =>
    exact .complete result place loaded (further.imp_right fun hlt => hlt.trans_le hn)
  | failed result fails hlog => exact .failed result fails hlog

/-- One line of a body, which is read as it is read from its position, if the lines below are. -/
lemma mirrors_line (hall : all = before ++ heading :: c.below)
    (hline : (start.run before).line = c.line)
    (hstep : (start.run before).step heading = (start.run before).bodyLine name b c.current)
    (hcatalog : (start.run before).catalog.Collects bs)
    (hlog : (start.run before).log = Block.allRecords [] bs ++ noted)
    (hbelow : ∀ b' log, start.run (before ++ [heading]) =
        (start.run before).goOn (.inside name b') log →
      Mirrors all bs name (noted ++ log) c.below.length (Script.body.read b' c.nextLine)) :
    Mirrors all bs name noted c.below.length (Script.body.read b c) := by
  have hnext := At.nextLine hall hline
  have hrun : start.run (before ++ [heading]) = (start.run before).bodyLine name b c.current := by
    rw [run_append, run_cons, run_nil, hstep]
  unfold bodyLine at hrun
  rw [hline] at hrun
  rcases hc : Command.ofLine? c.line c.current with _ | cmd <;> rw [hc] at hrun
  · rw [Script.read_of_prose hc]
    exact (hbelow b [] hrun).after
  · rw [Script.read_of_command hc]
    rcases hfeed : b.feed cmd with ⟨b' | s | s | f, log⟩ <;> simp only [hfeed] at hrun ⊢
    · exact (hbelow b' log hrun).after
    · -- the script is complete with this line
      refine .complete rfl hnext (hrun ▸ hasLoaded_complete hcatalog hlog) ?_
      obtain ⟨current, below, offset, line⟩ := c
      cases below with
      | nil => exact .inl rfl
      | cons next below => exact .inr (Nat.lt_succ_self _)
    · exact absurd hfeed (Body.feed_ne_leave b cmd s log)
    · -- the loading stops here, and stays as it is from then on
      have hstop : (start.run (before ++ [heading])).stage = .stopped f := by
        rw [hrun]
        rfl
      have hsplit : start.run all = (start.run (before ++ [heading])).run c.below := by
        rw [← run_append, hall, List.append_assoc]
        rfl
      refine .failed rfl ?_ ?_
      · rw [hsplit]
        exact result_of_stopped (stage_run_of_stopped hstop _)
      · rw [hsplit, log_run_of_stopped hstop, hrun, goOn, hlog, List.append_assoc]

/-- **The body of a script**, read from a position in a text and line by line. -/
lemma mirrors_body (hall : all = before ++ heading :: c.below)
    (hline : (start.run before).line = c.line)
    (hstep : (start.run before).step heading = (start.run before).bodyLine name b c.current)
    (hcatalog : (start.run before).catalog.Collects bs)
    (hlog : (start.run before).log = Block.allRecords [] bs ++ noted) :
    Mirrors all bs name noted c.below.length (Script.body.read b c) := by
  -- by induction on the lines below; where there are none, the text ends inside the script
  obtain ⟨current, below, offset, line⟩ := c
  induction below generalizing before heading b current offset line noted with
  | nil =>
    refine mirrors_line hall hline hstep hcatalog hlog fun b' log hrun => ?_
    refine .failed (f := .unterminated b'.missing.token) rfl ?_ ?_
    · rw [hall, hrun]
      rfl
    · rw [hall, hrun, goOn, hlog, List.append_assoc]
      exact congrArg _ (List.append_nil _).symm
  | cons next below ih =>
    refine mirrors_line hall hline hstep hcatalog hlog fun b' log hrun => ?_
    have hall' : all = (before ++ [heading]) ++ next :: below := by
      rw [hall, List.append_assoc]
      rfl
    have hline' : (start.run (before ++ [heading])).line = line + 1 := by
      rw [hrun, goOn, hline]
    have hcatalog' : (start.run (before ++ [heading])).catalog.Collects bs := by
      rw [hrun]
      exact hcatalog
    have hlog' : (start.run (before ++ [heading])).log =
        Block.allRecords [] bs ++ (noted ++ log) := by
      rw [hrun, goOn, hlog, List.append_assoc]
    have hstep' : (start.run (before ++ [heading])).step next =
        (start.run (before ++ [heading])).bodyLine name b' next := by
      rw [hrun]
      rfl
    exact (ih hcatalog' hlog' next _ _ hall' hline' hstep').mono (Nat.le_succ _)

end Loading

/-! ### The name of a script -/

lemma Text.word_dropBlanks_eq_nil_iff {t : Text} :
    word (dropBlanks t) = [] ↔ dropBlanks t = [] := by
  constructor
  · intro h
    rcases hdrop : dropBlanks t with _ | ⟨c, u⟩
    · rfl
    · have hhead : c ∈ (dropBlanks t).head? := by simp [hdrop]
      have hc : isBlank c = false := head?_dropWhile c hhead
      rw [hdrop, word, List.takeWhile_cons_of_pos (by simp [hc])] at h
      cases h
  · intro h
    rw [h]
    rfl

lemma Cursor.word_of_atEnd {c : Cursor} (h : c.atEnd = true) : c.word.1 = [] := by
  obtain ⟨current, below, offset, line⟩ := c
  obtain ⟨rfl, rfl⟩ : current = [] ∧ below = [] := (atEnd_iff _).mp h
  rfl

/-- What is skipped before a word are blank lines, and the blanks of the line it stands on. If there
is no word, then these are all the lines. -/
lemma Cursor.exists_line_of_word (c : Cursor) :
    ∃ blanks line, c.lines = blanks ++ line :: c.word.2.below ∧
      (∀ t ∈ blanks, Text.dropBlanks t = []) ∧
      c.word.1 = Text.word (Text.dropBlanks line) ∧
      c.word.2.current = Text.afterWord (Text.dropBlanks line) ∧
      c.word.2.line = c.line + blanks.length ∧
      (Text.dropBlanks line = [] → c.word.2.below = []) := by
  obtain ⟨current, below, offset, n⟩ := c
  simp only [word, skipBlanks, lines]
  fun_induction skipFrom current below offset n with
  | case1 current offset n next below hblank ih =>
    obtain ⟨blanks, line, hlines, hblanks, hword, hafter, hnumber, hend⟩ := ih
    refine ⟨current :: blanks, line, ?_, ?_, hword, hafter, ?_, hend⟩
    · rw [hlines, List.cons_append]
    · exact List.forall_mem_cons.mpr ⟨hblank, hblanks⟩
    · rw [hnumber, List.length_cons]
      omega
  | case2 current offset n below h =>
    refine ⟨[], current, rfl, by simp, rfl, rfl, by simp, fun hcurrent => ?_⟩
    cases below with
    | nil => rfl
    | cons next below => exact absurd hcurrent (h next below rfl)

namespace Loading

variable {all : List Text} {l : Loading} {bs : List Block} {c : Cursor}

/-- Blank lines between scripts change nothing but the number of the next line. -/
lemma HasLoaded.run_blanks (h : l.HasLoaded bs) {ts : List Text}
    (hts : ∀ t ∈ ts, Text.dropBlanks t = []) :
    (l.run ts).HasLoaded bs := by
  induction ts generalizing l with
  | nil => exact h
  | cons t ts ih =>
    obtain ⟨ht, hts⟩ := List.forall_mem_cons.mp hts
    refine ih ?_ hts
    have hstep : l.step t = l.goOn .between [] := by
      rw [step, h.stage]
      dsimp only
      rw [ht]
      rfl
    rw [hstep]
    exact ⟨rfl, h.catalog, (List.append_nil _).trans h.log⟩

/-- A loading at a position without a further word is over. -/
lemma HasLoaded.atEnd (h : l.HasLoaded bs) (hat : At all l c) (hname : c.word.1 = []) :
    (start.run all).HasLoaded bs := by
  cases hat with
  | beyond => exact h
  | @above before c lines line =>
    obtain ⟨blanks, heading, hlines, hblanks, hword, -, -, hend⟩ := c.exists_line_of_word
    have hnil : Text.dropBlanks heading = [] :=
      Text.word_dropBlanks_eq_nil_iff.mp (hword.symm.trans hname)
    rw [lines, hlines, hend hnil, run_append]
    exact h.run_blanks (List.forall_mem_append.mpr ⟨hblanks, List.forall_mem_singleton.mpr hnil⟩)

/-- **One block**, read from a position in a text and line by line. -/
lemma HasLoaded.mirrors (h : l.HasLoaded bs) (hat : At all l c) (hname : c.word.1 ≠ []) :
    Mirrors all bs c.word.1 [] c.below.length (Script.read c.word.2) := by
  obtain ⟨blanks, heading, hlines, hblanks, hword, hafter, hnumber, -⟩ := c.exists_line_of_word
  cases hat with
  | beyond hend => exact absurd (Cursor.word_of_atEnd hend) hname
  | @above before _ lines line =>
    have hloaded := h.run_blanks hblanks
    rw [← run_append] at hloaded
    have hlength : c.word.2.below.length ≤ c.below.length := by
      have := congrArg List.length hlines
      simp only [Cursor.lines, List.length_cons, List.length_append] at this
      omega
    have hall : all = (before ++ blanks) ++ heading :: c.word.2.below := by
      rw [lines, hlines, List.append_assoc]
    have hline : (start.run (before ++ blanks)).line = c.word.2.line := by
      rw [run_append, line_run, line, hnumber]
    have hstep : (start.run (before ++ blanks)).step heading =
        (start.run (before ++ blanks)).bodyLine c.word.1 Body.empty c.word.2.current := by
      rw [step, hloaded.stage, hafter]
      rw [hword] at hname ⊢
      dsimp only
      split
      · contradiction
      · rfl
    have hlog := hloaded.log.trans (List.append_nil _).symm
    exact (mirrors_body hall hline hstep hloaded.catalog hlog).mono hlength

/-- **Blocks**, read from a position in a text until there is no further word or a script cannot be
read. -/
lemma HasLoaded.exists_blocks (h : l.HasLoaded bs) (hat : At all l c) :
    ∃ cs d m, c.Blocks cs d ∧ At all m d ∧ m.HasLoaded (bs ++ cs) ∧
      (d.word.1 = [] ∨ d.word.1 ≠ [] ∧ ∃ f, (Script.read d.word.2).result = .error f) := by
  -- by induction on the lines below, of which each block leaves fewer
  induction hn : c.below.length using Nat.strong_induction_on generalizing l bs c with
  | _ n ih =>
    by_cases hname : c.word.1 = []
    · exact ⟨[], c, l, .nil c, hat, by rwa [List.append_nil], .inl hname⟩
    · cases h.mirrors hat hname with
      | @complete s m result place loaded further =>
        rcases further with hend | hlt
        · refine ⟨_, _, m, .cons hname result (.nil _), place, loaded, .inl ?_⟩
          exact Cursor.word_of_atEnd hend
        · obtain ⟨cs, d, m', hblocks, hplace, hloaded, hlast⟩ := ih _ (hn ▸ hlt) loaded place rfl
          refine ⟨_, d, m', .cons hname result hblocks, hplace, ?_, hlast⟩
          rw [List.append_assoc] at hloaded
          exact hloaded
      | @failed f result fails log =>
        exact ⟨[], c, l, .nil c, hat, by rwa [List.append_nil], .inr ⟨hname, f, result⟩⟩

end Loading

/-! ### What is noted of a script -/

/-- The event tells of a script that is loaded. -/
def Event.isLoaded : Event → Bool
  | loaded _ _ => true
  | _ => false

/-- The event tells of a script that takes the place of another one. -/
def Event.isRedefined : Event → Bool
  | redefined _ => true
  | _ => false

/-- The event tells of a command of a script. -/
def Event.isOfCommand (e : Event) : Bool := e.isIgnored || e.isBoxEnd

@[simp] lemma Event.isOfCommand_finished (n : Nat) : (finished n).isOfCommand = false := rfl

namespace Body

lemma feedPlain_log (actions : Script) (c : Command) :
    ∀ e ∈ (feedPlain actions c).2, e.isOfCommand := by
  unfold feedPlain
  split
  · simp
  · simp
  · split <;> simp
  · split <;> simp
  · rcases c.instruction? with e | _ | i
    · simp
    · exact List.forall_mem_singleton.mpr rfl
    · simp

/-- A command is noted, if anything is. -/
lemma feed_log (b : Body) (c : Command) : ∀ e ∈ (b.feed c).2, e.isOfCommand := by
  obtain ⟨actions, inside⟩ := b
  cases inside with
  | nothing => exact feedPlain_log actions c
  | box frame lines =>
    have hbox : ∀ e ∈ (MessageBox.feed lines c).2, e.isOfCommand := by
      unfold MessageBox.feed
      split
      · split <;> simp
      · simp
      · exact List.forall_mem_singleton.mpr rfl
    simp only [feed, feedBox]
    rcases hfeed : MessageBox.feed lines c with ⟨ls | ls | ls | e, log⟩ <;> rw [hfeed] at hbox
    · exact hbox
    · exact hbox
    · exact List.forall_mem_append.mpr ⟨hbox, feedPlain_log _ c⟩
    · exact hbox
  | pages p =>
    have hpages : ∀ e ∈ (Pages.feed p c).2, e.isOfCommand := by
      unfold Pages.feed
      split
      · simp
      · simp
      · rcases c.instruction? with e | _ | i
        · simp
        · exact List.forall_mem_singleton.mpr rfl
        · simp
    simp only [feed, feedPages]
    rcases hfeed : Pages.feed p c with ⟨q | a | a | e, log⟩ <;> rw [hfeed] at hpages <;>
      exact hpages

end Body

/-- While a script is read, nothing but its commands is noted. -/
lemma Script.read_log (b : Body) (c : Cursor) : ∀ e ∈ (body.read b c).log, e.isOfCommand := by
  unfold Construct.read
  generalize c.upcoming = ahead
  induction ahead generalizing b c with
  | nil => simp [Construct.run]
  | cons first ahead ih =>
    obtain ⟨cmd, next⟩ := first
    have hfeed : ∀ e ∈ (body.feed b cmd).2, e.isOfCommand := b.feed_log cmd
    simp only [Construct.run]
    rcases hreply : body.feed b cmd with ⟨b' | s | s | e, log⟩ <;> rw [hreply] at hfeed
    · exact List.forall_mem_append.mpr ⟨hfeed, ih b' next⟩
    · exact hfeed
    · exact hfeed
    · exact hfeed

lemma Cursor.Blocks.log {c d : Cursor} {bs : List Block} (h : c.Blocks bs d) :
    ∀ b ∈ bs, ∀ e ∈ b.log, e.isOfCommand := by
  induction h with
  | nil => simp
  | cons named complete rest ih => exact List.forall_mem_cons.mpr ⟨Script.read_log _ _, ih⟩

lemma Event.not_isLoaded_of_isOfCommand {e : Event} (h : e.isOfCommand) :
    ¬ e.isLoaded ∧ ¬ e.isRedefined := by
  cases e <;> simp_all [isOfCommand, isIgnored, isBoxEnd, isLoaded, isRedefined]

/-- There is a record for every name, and one more with each warning. -/
lemma Block.countP_allRecords {bs : List Block} (h : ∀ b ∈ bs, ∀ e ∈ b.log, e.isOfCommand) :
    (allRecords [] bs).countP Event.isLoaded =
      (bs.map name).eraseDups.length + (allRecords [] bs).countP Event.isRedefined := by
  induction bs using List.reverseRecOn with
  | nil => rfl
  | append_singleton bs b ih =>
    obtain ⟨hbs, hb⟩ := List.forall_mem_append.mp h
    have hlog := List.forall_mem_singleton.mp hb
    have hloaded : b.log.countP Event.isLoaded = 0 :=
      List.countP_eq_zero.mpr fun e he => (Event.not_isLoaded_of_isOfCommand (hlog e he)).1
    have hredefined : b.log.countP Event.isRedefined = 0 :=
      List.countP_eq_zero.mpr fun e he => (Event.not_isLoaded_of_isOfCommand (hlog e he)).2
    rw [allRecords_append, List.map_append, List.map_singleton, List.eraseDups_concat]
    simp only [allRecords, records, List.nil_append, List.append_nil, List.countP_append, hloaded,
      hredefined, ih hbs]
    -- a block with a known name leaves a warning, any other one a name
    split
    · simp [Event.isLoaded, Event.isRedefined]
      omega
    · simp [Event.isLoaded, Event.isRedefined]
      omega

/-- No block tells that the file is finished. -/
lemma Block.finished_not_mem_allRecords {bs : List Block}
    (h : ∀ b ∈ bs, ∀ e ∈ b.log, e.isOfCommand) (earlier : List Text) (n : Nat) :
    .finished n ∉ allRecords earlier bs := by
  induction bs generalizing earlier with
  | nil => exact List.not_mem_nil
  | cons b bs ih =>
    obtain ⟨hb, hbs⟩ := List.forall_mem_cons.mp h
    have hlog : .finished n ∉ b.log := fun hmem => by simpa using hb _ hmem
    have hwarning : .finished n ∉ if b.name ∈ earlier then [Event.redefined b.name] else [] := by
      split <;> simp
    simp [allRecords, records, hlog, hwarning, ih hbs]

/-! ### Whole texts -/

lemma Cursor.line_start (s : Text) : (start s).line = 1 := by
  unfold start seek
  cases Text.lines (s.drop 0) <;> rfl

namespace Loading

variable {l : Loading} {bs : List Block}

lemma HasLoaded.result (h : l.HasLoaded bs) : l.result = .ok l.catalog := by
  simp only [Loading.result, h.stage]
  rfl

lemma HasLoaded.report (h : l.HasLoaded bs) :
    l.report = Block.allRecords [] bs ++ [.finished l.catalog.size] := by
  simp only [Loading.report, h.result, h.log]

/-- The lines above a position are a text of their own. -/
lemma HasLoaded.ofSource {before : List Text} (h : (start.run before).HasLoaded bs)
    (hlines : ∀ t ∈ before, '\n' ∉ t) : (ofSource (['\n'].intercalate before)).HasLoaded bs := by
  unfold Loading.ofSource
  by_cases hnil : before = []
  · subst hnil
    have hblank : ∀ t ∈ [([] : Text)], Text.dropBlanks t = [] := by simp
    exact h.run_blanks hblank
  · rwa [Text.lines_intercalate hnil hlines]

end Loading

/-- **A file is its blocks.** Read a name and a script, in turns. If there is no further name in the
end, then the text loads, and the catalog and the log are those of the blocks, with the number of
names as the last record. If a script cannot be read, then loading fails as the reading does; the
log has the records of the blocks before and what was noted of the script, and it is not finished.
The lines above that script load, with the same records. -/
theorem Catalog.load_blocks (s : Text) :
    ∃ bs d, (Cursor.start s).Blocks bs d ∧ (∀ b ∈ bs, ∀ e ∈ b.log, e.isOfCommand) ∧
      ((∃ k, load s = .ok k ∧ d.word.1 = [] ∧ k.Collects bs ∧
          loadLog s = Block.allRecords [] bs ++ [.finished k.size] ∧
          (loadLog s).countP Event.isLoaded = k.size + (loadLog s).countP Event.isRedefined) ∨
        ∃ f, load s = .error f ∧ d.word.1 ≠ [] ∧ (Script.read d.word.2).result = .error f ∧
          loadLog s = Block.allRecords [] bs ++ (Script.read d.word.2).log ∧
          (∀ n, .finished n ∉ loadLog s) ∧
          ∃ before k, Text.lines s = before ++ d.lines ∧
            load (['\n'].intercalate before) = .ok k ∧ k.Collects bs ∧
            loadLog (['\n'].intercalate before) =
              Block.allRecords [] bs ++ [.finished k.size]) := by
  have hlines : Text.lines s = [] ++ (Cursor.start s).lines := (Cursor.lines_seek s 0 1).symm
  have hstart : Loading.At (Text.lines s) (Loading.start.run []) (Cursor.start s) :=
    .above hlines (Cursor.line_start s).symm
  obtain ⟨bs, d, m, hblocks, hplace, hloaded, hlast⟩ :=
    Loading.hasLoaded_start.exists_blocks hstart
  rw [List.nil_append] at hloaded
  refine ⟨bs, d, hblocks, hblocks.log, ?_⟩
  obtain hname | ⟨hname, f, hf⟩ := hlast
  · have hended := hloaded.atEnd hplace hname
    have hlog : loadLog s = Block.allRecords [] bs ++ [.finished _] := hended.report
    refine .inl ⟨_, hended.result, hname, hended.catalog, hlog, ?_⟩
    have hsize : (Loading.start.run (Text.lines s)).catalog.size =
        (bs.map Block.name).eraseDups.length := by
      rw [← hended.catalog.names, names, List.length_map, size]
    have hfinished : ∀ n, [Event.finished n].countP Event.isLoaded = 0 ∧
        [Event.finished n].countP Event.isRedefined = 0 := fun n => ⟨rfl, rfl⟩
    rw [hlog, List.countP_append, List.countP_append, (hfinished _).1, (hfinished _).2,
      Block.countP_allRecords hblocks.log, hsize, Nat.add_zero, Nat.add_zero]
  · refine .inr ⟨f, ?_⟩
    cases hloaded.mirrors hplace hname with
    | complete result => cases hf.symm.trans result
    | @failed g result fails log =>
      obtain rfl : f = g := Except.error.inj (hf.symm.trans result)
      rw [List.nil_append] at log
      have hlog : loadLog s = Block.allRecords [] bs ++ (Script.read d.word.2).log := by
        rw [← log, loadLog, Loading.report, Loading.ofSource, fails]
      refine ⟨fails, hname, hf, hlog, fun n hmem => ?_, ?_⟩
      · rw [hlog] at hmem
        rcases List.mem_append.mp hmem with hbefore | hscript
        · exact Block.finished_not_mem_allRecords hblocks.log [] n hbefore
        · simpa using Script.read_log _ _ _ hscript
      · cases hplace with
        | beyond hend => exact absurd (Cursor.word_of_atEnd hend) hname
        | @above before _ hlines _ =>
          have hbefore : ∀ t ∈ before, '\n' ∉ t := fun t ht =>
            Text.newline_not_mem_of_mem_lines (hlines ▸ List.mem_append_left _ ht)
          have hprefix := hloaded.ofSource hbefore
          exact ⟨before, _, hlines, hprefix.result, hprefix.catalog, hprefix.report⟩

end Cutscene
