import Cutscene.Proofs.Steps

/-!
A block of pages is its commands, split at the marks between pages.

The commands of a block are those before the first end marker. The first of them that cannot be read
decides how the block fails, and only if there is none does it matter that the end marker is
missing. Otherwise the marks split the commands into pages, and each page has the actions of its
commands.
-/

namespace Cutscene

namespace Command

/-- The command starts a new page. -/
def IsPageMark (c : Command) : Prop := c.keyword? = some .page

/-- The command closes a block of pages. -/
def EndsPages (c : Command) : Prop := c.keyword? = some .pagesEnd

instance (c : Command) : Decidable c.IsPageMark := inferInstanceAs (Decidable (_ = _))

instance (c : Command) : Decidable c.EndsPages := inferInstanceAs (Decidable (_ = _))

/-- Why the command cannot stand on a page. A mark between pages stands on none. -/
def pageFault? (c : Command) : Option Fault :=
  match c.instruction? with
  | .error e => if c.IsPageMark then none else some e
  | .ok _ => none

/-- The action that the command is on a page, if it is one. -/
def pageAction? (c : Command) : Option Action :=
  match c.instruction? with
  | .ok (some i) => some (.single i)
  | _ => none

end Command

/-- The commands ahead that stand before the end of a block of pages. -/
def Cursor.pagePart (c : Cursor) : List Command := c.commands.takeWhile (¬ ·.EndsPages)

namespace Pages

/-- The pages that some commands make. -/
def ofCommands (cs : List Command) : List Script :=
  (cs.splitOnP (·.IsPageMark)).map (·.filterMap Command.pageAction?)

/-! ### One command -/

variable {cmd : Command}

lemma feed_of_endsPages (h : cmd.EndsPages) (p : OpenPages) :
    feed p cmd = (.done (.ofPagesAndLast p.closed p.current), []) := by
  simp only [feed, show cmd.keyword? = some .pagesEnd from h]

lemma feed_of_isPageMark (h : cmd.IsPageMark) (p : OpenPages) :
    feed p cmd = (.more ⟨p.closed ++ [p.current], []⟩, []) := by
  simp only [feed, show cmd.keyword? = some .page from h]

lemma feed_of_pageFault? {e : Fault} (h : cmd.pageFault? = some e) (hend : ¬ cmd.EndsPages)
    (p : OpenPages) : feed p cmd = (.fail e, []) := by
  unfold Command.pageFault? at h
  split at h
  · rename_i e' hi
    split at h
    · cases h
    · rename_i hmark
      cases h
      unfold feed
      split
      · contradiction
      · contradiction
      · rw [hi]
  · cases h

/-- A command that can stand on a page adds its action to the page, if it is one. -/
lemma feed_of_pageFault?_eq_none (h : cmd.pageFault? = none) (hend : ¬ cmd.EndsPages)
    (hmark : ¬ cmd.IsPageMark) (p : OpenPages) :
    ∃ log, feed p cmd = (.more { p with current := p.current ++ cmd.pageAction?.toList }, log) := by
  unfold feed
  split
  · contradiction
  · contradiction
  · rcases hi : cmd.instruction? with e | _ | i
    · simp [Command.pageFault?, hi, hmark] at h
    · exact ⟨[cmd.ignored], by simp [Command.pageAction?, hi]⟩
    · exact ⟨[], by simp [Command.pageAction?, hi]⟩

/-- A mark between pages is no action. -/
lemma pageAction?_of_isPageMark (h : cmd.IsPageMark) : cmd.pageAction? = none := by
  unfold Command.pageAction?
  rw [Command.instruction?_of_bound h (by simp)]

/-! ### The pages of some commands -/

@[simp] lemma ofCommands_nil : ofCommands [] = [[]] := rfl

lemma ofCommands_ne_nil (cs : List Command) : ofCommands cs ≠ [] := by
  unfold ofCommands
  rw [Ne, List.map_eq_nil_iff]
  exact List.splitOnP_ne_nil _ _

/-- A mark closes the page before it. -/
lemma ofCommands_of_isPageMark (h : cmd.IsPageMark) (cs : List Command) :
    ofCommands (cmd :: cs) = [] :: ofCommands cs := by
  simp only [ofCommands, List.splitOnP_cons_eq_if_modifyHead, h, decide_true, if_true,
    List.map_cons, List.filterMap_nil]

/-- Any other command stands on the page before the next mark. -/
lemma ofCommands_of_not_isPageMark (h : ¬ cmd.IsPageMark) (cs : List Command) :
    ofCommands (cmd :: cs) = (ofCommands cs).modifyHead (cmd.pageAction?.toList ++ ·) := by
  obtain ⟨part, parts, hsplit⟩ :=
    List.exists_cons_of_ne_nil (List.splitOnP_ne_nil (fun c : Command => c.IsPageMark) cs)
  simp only [ofCommands, List.splitOnP_cons_eq_if_modifyHead, h, decide_false, if_false,
    Bool.false_eq_true, hsplit, List.modifyHead_cons, List.map_cons, List.filterMap_cons]
  cases cmd.pageAction? <;> rfl

/-- There is one page more than there are marks. -/
lemma length_ofCommands (cs : List Command) :
    (ofCommands cs).length = 1 + cs.countP (·.IsPageMark) := by
  induction cs with
  | nil => rfl
  | cons cmd cs ih =>
    by_cases hmark : cmd.IsPageMark
    · rw [ofCommands_of_isPageMark hmark, List.length_cons, ih,
        List.countP_cons_of_pos (by simpa using hmark)]
      omega
    · rw [ofCommands_of_not_isPageMark hmark, List.length_modifyHead, ih,
        List.countP_cons_of_neg (by simpa using hmark)]

/-- The pages together have the actions of all the commands. -/
lemma flatten_ofCommands (cs : List Command) :
    (ofCommands cs).flatten = cs.filterMap Command.pageAction? := by
  induction cs with
  | nil => rfl
  | cons cmd cs ih =>
    by_cases hmark : cmd.IsPageMark
    · rw [ofCommands_of_isPageMark hmark, List.flatten_cons, List.nil_append, ih,
        List.filterMap_cons_none (pageAction?_of_isPageMark hmark)]
    · obtain ⟨first, others, hpages⟩ := List.exists_cons_of_ne_nil (ofCommands_ne_nil cs)
      rw [hpages, List.flatten_cons] at ih
      rw [ofCommands_of_not_isPageMark hmark, hpages, List.modifyHead_cons, List.flatten_cons,
        List.append_assoc, ih]
      cases haction : cmd.pageAction? with
      | none => rw [List.filterMap_cons_none haction]; rfl
      | some a => rw [List.filterMap_cons_some haction]; rfl

/-! ### A block that is being read -/

/-- The pages so far, when some more commands have come: the first of these stand on the open
page. -/
def followedBy (p : OpenPages) (cs : List Command) : List Script :=
  p.closed ++ (ofCommands cs).modifyHead (p.current ++ ·)

lemma followedBy_empty (cs : List Command) : followedBy empty cs = ofCommands cs := by
  obtain ⟨first, others, hpages⟩ := List.exists_cons_of_ne_nil (ofCommands_ne_nil cs)
  rw [followedBy, hpages]
  rfl

lemma followedBy_nil (p : OpenPages) : followedBy p [] = p.closed ++ [p.current] := by
  simp [followedBy]

lemma followedBy_of_isPageMark (h : cmd.IsPageMark) (p : OpenPages) (cs : List Command) :
    followedBy ⟨p.closed ++ [p.current], []⟩ cs = followedBy p (cmd :: cs) := by
  obtain ⟨first, others, hpages⟩ := List.exists_cons_of_ne_nil (ofCommands_ne_nil cs)
  simp [followedBy, ofCommands_of_isPageMark h, hpages]

lemma followedBy_of_not_isPageMark (h : ¬ cmd.IsPageMark) (p : OpenPages) (cs : List Command) :
    followedBy { p with current := p.current ++ cmd.pageAction?.toList } cs =
      followedBy p (cmd :: cs) := by
  obtain ⟨first, others, hpages⟩ := List.exists_cons_of_ne_nil (ofCommands_ne_nil cs)
  simp [followedBy, ofCommands_of_not_isPageMark h, hpages]

lemma pagePart_of_not_endsPages {c next : Cursor} (h : c.command? = some (cmd, next))
    (hend : ¬ cmd.EndsPages) : c.pagePart = cmd :: next.pagePart := by
  rw [Cursor.pagePart, Cursor.commands_of_command? h]
  exact List.takeWhile_cons_of_pos (by simpa using hend)

lemma pagePart_of_endsPages {c next : Cursor} (h : c.command? = some (cmd, next))
    (hend : cmd.EndsPages) : c.pagePart = [] := by
  rw [Cursor.pagePart, Cursor.commands_of_command? h]
  exact List.takeWhile_cons_of_neg (by simpa using hend)

/-- What reading a block comes to, with some pages so far, told from the commands ahead. -/
inductive Splits (c : Cursor) (p : OpenPages) (o : Outcome Action) : Prop
  | faulty {e : Fault} (first : c.pagePart.findSome? Command.pageFault? = some e)
      (result : o.result = .error e)
  | endless (sound : ∀ cmd ∈ c.pagePart, cmd.pageFault? = none)
      (missing : ∀ cmd ∈ c.commands, ¬ cmd.EndsPages)
      (result : o.result = .error (.unterminated Keyword.pagesEnd.token))
  | whole {last : Command} {first : Script} {others : List Script}
      (sound : ∀ cmd ∈ c.pagePart, cmd.pageFault? = none) (ends : last.EndsPages)
      (parts : c.commands = c.pagePart ++ last :: o.cursor.commands)
      (result : o.result = .ok (.pages first others))
      (pages : first :: others = followedBy p c.pagePart)

/-- One more command of the block, before all others. -/
lemma Splits.cons {c next : Cursor} {p q : OpenPages} {o : Outcome Action} {log : Log}
    (h : c.command? = some (cmd, next)) (hend : ¬ cmd.EndsPages) (hsound : cmd.pageFault? = none)
    (hpages : followedBy q next.pagePart = followedBy p (cmd :: next.pagePart))
    (ho : Splits next q o) : Splits c p (o.after log) := by
  have hpart := pagePart_of_not_endsPages h hend
  have hcommands := Cursor.commands_of_command? h
  cases ho with
  | faulty first result =>
    refine .faulty ?_ result
    rw [hpart, List.findSome?_cons_of_isNone (by rw [hsound]; rfl), first]
  | endless sound missing result =>
    refine .endless ?_ ?_ result
    · rw [hpart]
      exact List.forall_mem_cons.mpr ⟨hsound, sound⟩
    · rw [hcommands]
      exact List.forall_mem_cons.mpr ⟨hend, missing⟩
  | whole sound ends parts result pages =>
    refine .whole ?_ ends ?_ result ?_
    · rw [hpart]
      exact List.forall_mem_cons.mpr ⟨hsound, sound⟩
    · rw [hpart, hcommands, parts]
      rfl
    · rw [hpart, pages, hpages]

lemma splits_run (p : OpenPages) (c : Cursor) : Splits c p (block.run p c c.upcoming) := by
  -- by induction on the commands ahead, of which the block ends with the first end marker
  induction hc : c.upcoming generalizing p c with
  | nil =>
    have hcommands : c.commands = [] := by
      rw [Cursor.commands, hc]
      rfl
    exact .endless (by simp [Cursor.pagePart, hcommands]) (by simp [hcommands]) rfl
  | cons first ahead ih =>
    obtain ⟨cmd, next⟩ := first
    have hnext := Cursor.upcoming_of_cons hc
    have hcommand := Cursor.command?_of_upcoming hc
    have hfeed : block.feed p cmd = feed p cmd := rfl
    by_cases hend : cmd.EndsPages
    · obtain ⟨page, pages, hpages⟩ : ∃ page pages, p.closed ++ [p.current] = page :: pages :=
        List.exists_cons_of_ne_nil (by simp)
      have hresult : Action.ofPagesAndLast p.closed p.current = .pages page pages := by
        have := Action.ofPages?_append_singleton p.closed p.current
        rw [hpages] at this
        exact (Option.some.inj this).symm
      have hpart := pagePart_of_endsPages hcommand hend
      simp only [Construct.run, hfeed, feed_of_endsPages hend, hresult]
      refine .whole (by simp [hpart]) hend ?_ rfl ?_
      · rw [hpart, Cursor.commands_of_command? hcommand]
        rfl
      · rw [hpart, followedBy_nil, hpages]
    · rcases hfault : cmd.pageFault? with _ | e
      · by_cases hmark : cmd.IsPageMark
        · simp only [Construct.run, hfeed, feed_of_isPageMark hmark]
          exact (ih _ next hnext).cons hcommand hend hfault (followedBy_of_isPageMark hmark p _)
        · obtain ⟨log, hmore⟩ := feed_of_pageFault?_eq_none hfault hend hmark p
          simp only [Construct.run, hfeed, hmore]
          exact (ih _ next hnext).cons hcommand hend hfault (followedBy_of_not_isPageMark hmark p _)
      · simp only [Construct.run, hfeed, feed_of_pageFault? hfault hend]
        refine .faulty ?_ rfl
        rw [pagePart_of_not_endsPages hcommand hend,
          List.findSome?_cons_of_isSome (by simp [hfault]), hfault]

/-- **Pages are the block, split at its marks.** Of the commands ahead of a position, consider those
before the first end marker, or all if there is none. If one of them, not a mark between pages,
cannot be read as an instruction, then reading the block fails as the first such command does. If
all can be read and there is no end marker, then that is missing. Otherwise the commands between two
marks are a page, each of them with its action if it has one, so that all pages together are the
actions of the block; there is one page more than there are marks; and what is ahead when the block
is read are the commands after the end marker. -/
theorem read_splits (c : Cursor) :
    (∃ e, c.pagePart.findSome? Command.pageFault? = some e ∧ (read c).result = .error e) ∨
    ((∀ cmd ∈ c.pagePart, cmd.pageFault? = none) ∧ (∀ cmd ∈ c.commands, ¬ cmd.EndsPages) ∧
      (read c).result = .error (.unterminated Keyword.pagesEnd.token)) ∨
    ∃ last first others, (∀ cmd ∈ c.pagePart, cmd.pageFault? = none) ∧ last.EndsPages ∧
      c.commands = c.pagePart ++ last :: (read c).cursor.commands ∧
      (read c).result = .ok (.pages first others) ∧
      first :: others =
        (c.pagePart.splitOnP (·.IsPageMark)).map (·.filterMap Command.pageAction?) ∧
      (first :: others).length = 1 + c.pagePart.countP (·.IsPageMark) ∧
      (first :: others).flatten = c.pagePart.filterMap Command.pageAction? := by
  cases splits_run empty c with
  | faulty first result => exact .inl ⟨_, first, result⟩
  | endless sound missing result => exact .inr (.inl ⟨sound, missing, result⟩)
  | @whole last first others sound ends parts result pages =>
    rw [followedBy_empty] at pages
    refine .inr (.inr ⟨last, first, others, sound, ends, parts, result, pages, ?_, ?_⟩)
    · rw [pages, length_ofCommands]
    · rw [pages, flatten_ofCommands]

/-- The first page and the last one are empty, and a command without a meaning is on none. -/
example : (read (Cursor.start
    "//APAGE\n//WAIT\n//NOISE\n//APAGE\n//PAGESEND".toList)).result =
      .ok (.pages [] [[.single .waitForInput], []]) := by
  decide +kernel

end Pages

end Cutscene
