import Cutscene.Proofs.Lines
import Cutscene.Proofs.Loading
import Cutscene.Proofs.ReadBack

/-!
A written catalog is loaded again.

A line takes the loading from one state to the next, and so do the lines of an action, of a script
and of a catalog. The one thing that stays open is a message box: its action is complete only at
the next command, so a body with an open box counts as one that has the box already.
-/

namespace Cutscene

/-- A written command goes to the script that is being read. -/
lemma Loading.exists_step_line {l : Loading} {name : Text} {b : Body} {k : Keyword}
    {arguments : Text} {r : Reply Body Script} (h : l.stage = .inside name b)
    (ha : ∀ c ∈ arguments.head?, Text.isBlank c = true)
    (hr : (b.feed (k.command (Text.trimEnd arguments) l.line)).1 = r) :
    ∃ log, l.step (k.line arguments) =
      match r with
      | .more b' => l.goOn (.inside name b') log
      | .done s | .leave s => l.complete name s log
      | .fail e => l.goOn (.stopped e) log := by
  rcases hfeed : b.feed (k.command (Text.trimEnd arguments) l.line) with ⟨r', log⟩
  rw [hfeed] at hr
  obtain rfl : r' = r := hr
  refine ⟨log, ?_⟩
  rw [step, h]
  dsimp only
  rw [bodyLine, Keyword.ofLine?_line ha]
  simp only [hfeed]
  cases r' <;> rfl

namespace Body

/-! ### Lines inside a script -/

/-- The lines take a script from one state to another, whatever surrounds it. -/
def Reads (b : Body) (ts : List Text) (b' : Body) : Prop :=
  ∀ (l : Loading) (name : Text), l.stage = .inside name b →
    (l.run ts).stage = .inside name b' ∧ (l.run ts).catalog = l.catalog

namespace Reads

variable {b b' b'' : Body} {ts us : List Text}

lemma nil : Reads b [] b := fun _ _ h => ⟨h, rfl⟩

lemma append (h : Reads b ts b') (h' : Reads b' us b'') : Reads b (ts ++ us) b'' := by
  intro l name hl
  obtain ⟨hstage, hcatalog⟩ := h l name hl
  obtain ⟨hstage', hcatalog'⟩ := h' _ name hstage
  rw [Loading.run_append]
  exact ⟨hstage', hcatalog'.trans hcatalog⟩

lemma cons {t : Text} (h : Reads b [t] b') (h' : Reads b' ts b'') : Reads b (t :: ts) b'' :=
  h.append h'

end Reads

lemma reads_line {b b' : Body} {k : Keyword} {arguments : Text}
    (ha : ∀ c ∈ arguments.head?, Text.isBlank c = true)
    (h : ∀ line, (b.feed (k.command (Text.trimEnd arguments) line)).1 = .more b') :
    Reads b [k.line arguments] b' := by
  intro l name hl
  obtain ⟨log, hstep⟩ := Loading.exists_step_line hl ha (h l.line)
  rw [Loading.run_cons, Loading.run_nil, hstep]
  exact ⟨rfl, rfl⟩

/-! ### Between constructs -/

/-- The body holds the script, if an open box counts as complete. -/
inductive Holds (s : Script) : Body → Prop
  | closed : Holds s ⟨s, .nothing⟩
  | box {actions : Script} {frame : BoxFrame} {lines : List Text}
      (h : s = actions ++ [.single (frame.withLines lines)]) : Holds s ⟨actions, .box frame lines⟩

namespace Holds

variable {s : Script} {b b' : Body} {k : Keyword} {arguments : Text}

/-- A command that is no part of a box finds the script as if no box were open. -/
lemma feed {c : Command} (h : Holds s b) (hc : c.keyword? = some k) (htext : k ≠ .boxText)
    (hblank : k ≠ .boxBlank) : (b.feed c).1 = (feedPlain s c).1 := by
  cases h with
  | closed => rfl
  | box hs =>
    -- the box leaves the command to the body, and is complete with that
    subst hs
    simp only [Body.feed, feedBox, MessageBox.feed, hc]
    cases k with
    | boxText => exact absurd rfl htext
    | boxBlank => exact absurd rfl hblank
    | _ => rfl

lemma reads_line (h : Holds s b) (htext : k ≠ .boxText) (hblank : k ≠ .boxBlank)
    (ha : ∀ c ∈ arguments.head?, Text.isBlank c = true)
    (hplain : ∀ line, (feedPlain s (k.command (Text.trimEnd arguments) line)).1 = .more b') :
    Reads b [k.line arguments] b' :=
  Body.reads_line ha fun line =>
    (h.feed Keyword.keyword?_command htext hblank).trans (hplain line)

end Holds

/-! ### Actions -/

section

variable {w : Closing} {s : Script} {b : Body}

lemma reads_oneLine {i : Instruction} (h : i.FitsPage) (hp : i.Presentable) (hb : Holds s b) :
    Reads b (i.sourceLines w) (add s [.single i]) := by
  obtain ⟨o, arguments, hi, hlines⟩ := i.exists_command? h.1 w
  rw [hlines]
  refine hb.reads_line (by simp) (by simp) (Instruction.head?_of_command? hi) fun line => ?_
  have hread := Instruction.instruction?_of_command? hi h.2 hp line
  unfold feedPlain
  rw [Keyword.keyword?_command]
  dsimp only
  rw [hread]

lemma reads_menu {slot : Int} (hslot : Writable slot) (hb : Holds s b) :
    Reads b ((Instruction.rememberSelection slot).sourceLines w) (add s (menuActions slot)) := by
  refine hb.reads_line (by simp) (by simp) (Text.isBlank_head?_space _) fun line => ?_
  have hread : (Arguments.int ⟨Text.fields [slot], false⟩).1 = .ok slot := by
    rw [← Take.runOn_int, ← List.append_nil (Text.fields [slot]),
      Take.runOn_int_fields hslot Text.endsNumber_nil]
  unfold feedPlain
  rw [Keyword.keyword?_command]
  dsimp only
  rw [Keyword.unread_command, Text.trimEnd_of_visible (Text.getLast?_fields _), hread]

lemma reads_boxLine {frame : BoxFrame} {lines : List Text} {t : Text} (ht : t.IsBoxLine) :
    Reads ⟨s, .box frame lines⟩ [w.boxLine t] ⟨s, .box frame (lines ++ [t])⟩ := by
  cases t with
  | nil =>
    refine reads_line (by simp) fun line => ?_
    simp only [feed, feedBox, MessageBox.feed, Keyword.keyword?_command]
  | cons c t =>
    refine reads_line (Text.isBlank_head?_space _) fun line => ?_
    have htext : (Arguments.text ⟨Text.trimEnd (w.payload (c :: t)), false⟩).1 = c :: t := by
      have htrim := w.trimEnd_append_payload [] (List.cons_ne_nil c t)
      rw [List.nil_append, List.nil_append] at htrim
      rw [htrim, w.text_payload ht.ret]
    simp only [feed, feedBox, MessageBox.feed, Keyword.keyword?_command, Keyword.unread_command,
      htext, Text.trimEnd_of_visible ht.getLast]

lemma reads_boxLines {frame : BoxFrame} {lines ls : List Text} (hl : ∀ t ∈ ls, t.IsBoxLine) :
    Reads ⟨s, .box frame lines⟩ (ls.map w.boxLine) ⟨s, .box frame (lines ++ ls)⟩ := by
  induction ls generalizing lines with
  | nil =>
    rw [List.append_nil]
    exact .nil
  | cons t ls ih =>
    have hrest := @ih (lines ++ [t]) fun u hu => hl u (List.mem_cons_of_mem _ hu)
    rw [List.append_assoc] at hrest
    exact (reads_boxLine (hl t List.mem_cons_self)).cons hrest

lemma reads_box {y width height : Int} {ls : List Text} (hy : Writable y) (hw : Writable width)
    (hh : Writable height) (hl : ∀ t ∈ ls, t.IsBoxLine) (hb : Holds s b) :
    Reads b ((Instruction.messageBox y width height ls).sourceLines w)
      ⟨s, .box ⟨y, width, height⟩ ls⟩ := by
  have hopen : Reads b [Keyword.box.line (Text.fields [y, height, width])]
      ⟨s, .box ⟨y, width, height⟩ []⟩ := by
    refine hb.reads_line (by simp) (by simp) (Text.isBlank_head?_space _) fun line => ?_
    have hread := Take.runOn_boxFrame hy hw hh
    unfold feedPlain
    rw [Keyword.keyword?_command]
    dsimp only
    rw [Keyword.unread_command, Text.trimEnd_of_visible (Text.getLast?_fields _), hread]
  exact hopen.cons (reads_boxLines hl)

/-- The actions of a page are added to the page that is open. -/
lemma reads_page {closed : List Script} {current page : Script} (h : Script.IsPage page)
    (hp : ∀ i, Action.single i ∈ page → i.Presentable) :
    Reads ⟨s, .pages ⟨closed, current⟩⟩ (page.flatMap (Action.pageSource w))
      ⟨s, .pages ⟨closed, current ++ page⟩⟩ := by
  induction page generalizing current with
  | nil =>
    rw [List.append_nil]
    exact .nil
  | cons a page ih =>
    obtain ⟨i, rfl, hfits⟩ := h a List.mem_cons_self
    obtain ⟨o, arguments, hi, hlines⟩ := i.exists_command? hfits.1 w
    have hline : Reads ⟨s, .pages ⟨closed, current⟩⟩ (i.sourceLines w)
        ⟨s, .pages ⟨closed, current ++ [.single i]⟩⟩ := by
      rw [hlines]
      refine reads_line (Instruction.head?_of_command? hi) fun line => ?_
      have hread := Instruction.instruction?_of_command? hi hfits.2 (hp i List.mem_cons_self) line
      simp only [feed, feedPages, Pages.feed, Keyword.keyword?_command, hread]
    have hrest := @ih (current ++ [.single i]) (fun b hb => h b (List.mem_cons_of_mem _ hb))
      fun j hj => hp j (List.mem_cons_of_mem _ hj)
    rw [List.append_assoc] at hrest
    exact hline.append hrest

/-- Each further page closes the one before it. -/
lemma reads_furtherPages {closed : List Script} {current : Script} {others : List Script}
    (h : ∀ page ∈ others, Script.IsPage page)
    (hp : ∀ page ∈ others, ∀ i, Action.single i ∈ page → i.Presentable) :
    ∃ p : OpenPages, p.closed ++ [p.current] = closed ++ current :: others ∧
      Reads ⟨s, .pages ⟨closed, current⟩⟩
        (others.flatMap fun page => Keyword.page.line [] :: page.flatMap (Action.pageSource w))
        ⟨s, .pages p⟩ := by
  -- the open page is closed by each mark, so it moves to the closed ones along the induction
  induction others generalizing closed current with
  | nil => exact ⟨⟨closed, current⟩, rfl, .nil⟩
  | cons page others ih =>
    obtain ⟨p, hpages, hrest⟩ := @ih (closed ++ [current]) page
      (fun q hq => h q (List.mem_cons_of_mem _ hq)) fun q hq => hp q (List.mem_cons_of_mem _ hq)
    have hmark : Reads ⟨s, .pages ⟨closed, current⟩⟩ [Keyword.page.line []]
        ⟨s, .pages ⟨closed ++ [current], []⟩⟩ := by
      refine reads_line (by simp) fun line => ?_
      simp only [feed, feedPages, Pages.feed, Keyword.keyword?_command]
    have hpage := hmark.cons (reads_page (w := w) (h page List.mem_cons_self)
      (hp page List.mem_cons_self))
    refine ⟨p, by rw [hpages, List.append_assoc]; rfl, hpage.append hrest⟩

lemma reads_pages {first : Script} {others : List Script}
    (h : (Action.pages first others).WellFormed)
    (hp : ∀ page ∈ first :: others, ∀ i, Action.single i ∈ page → i.Presentable)
    (hb : Holds s b) :
    Reads b ((Action.pages first others).sourceLines w) (add s [.pages first others]) := by
  have hopen : Reads b [Keyword.pages.line []] ⟨s, .pages Pages.empty⟩ := by
    refine hb.reads_line (by simp) (by simp) (by simp) fun line => ?_
    simp only [feedPlain, Keyword.keyword?_command]
  have hfirst : Reads ⟨s, .pages Pages.empty⟩ (first.flatMap (Action.pageSource w))
      ⟨s, .pages ⟨[], first⟩⟩ :=
    reads_page (h first List.mem_cons_self) (hp first List.mem_cons_self)
  obtain ⟨p, hpages, hothers⟩ := @reads_furtherPages w s [] first others
    (fun page hpage => h page (List.mem_cons_of_mem _ hpage))
    fun page hpage => hp page (List.mem_cons_of_mem _ hpage)
  have hall : Action.ofPagesAndLast p.closed p.current = .pages first others := by
    have hsome := Action.ofPages?_append_singleton p.closed p.current
    rw [hpages] at hsome
    exact (Option.some.inj hsome).symm
  have hclose : Reads ⟨s, .pages p⟩ [Keyword.pagesEnd.line []] (add s [.pages first others]) := by
    refine reads_line (by simp) fun line => ?_
    simp only [feed, feedPages, Pages.feed, Keyword.keyword?_command, hall]
  exact hopen.cons ((hfirst.append hothers).append hclose)

/-- **An action is read back.** -/
lemma exists_reads_action {a : Action} (hm : ¬ a.IsMenuHalf) (ha : a.WellFormed)
    (hp : ∀ i ∈ a.instructions, i.Presentable) (hb : Holds s b) :
    ∃ b', Reads b (a.sourceLines w) b' ∧ Holds (s ++ [a]) b' := by
  cases a with
  | single i =>
    have hp : i.Presentable := hp i (List.mem_singleton_self i)
    by_cases hline : i.IsOneLine
    · exact ⟨_, reads_oneLine ⟨hline, ha⟩ hp hb, .closed⟩
    · cases i with
      | fadeInBeforeWait => exact absurd (.inl rfl) hm
      | rememberSelection slot => exact absurd (.inr ⟨slot, rfl⟩) hm
      | messageBox y width height ls =>
        have hread := reads_box (w := w) (hp.writable (n := y) (by simp [Instruction.numbers]))
          (hp.writable (n := width) (by simp [Instruction.numbers]))
          (hp.writable (n := height) (by simp [Instruction.numbers])) ha hb
        exact ⟨_, hread, .box rfl⟩
      | _ => exact absurd trivial hline
  | pages first others =>
    have hpages : ∀ page ∈ first :: others, ∀ i, Action.single i ∈ page → i.Presentable :=
      fun page hpage i hi =>
        hp i (List.mem_flatMap.mpr ⟨page, hpage, List.mem_filterMap.mpr ⟨_, hi, rfl⟩⟩)
    exact ⟨_, reads_pages ha hpages hb, .closed⟩

/-- **A script is read back**, menu by menu and action by action. -/
lemma exists_reads_script {t : Script} (hm : Script.MenusPaired t) (ha : ∀ a ∈ t, a.WellFormed)
    (hp : ∀ a ∈ t, ∀ i ∈ a.instructions, i.Presentable) (hb : Holds s b) :
    ∃ b', Reads b (t.flatMap (Action.sourceLines w)) b' ∧ Holds (s ++ t) b' := by
  -- the two halves of a menu come from one line, so the induction takes them together
  refine hm.induction (motive := fun t => (∀ a ∈ t, a.WellFormed) →
    (∀ a ∈ t, ∀ i ∈ a.instructions, i.Presentable) → ∀ s b, Holds s b →
      ∃ b', Reads b (t.flatMap (Action.sourceLines w)) b' ∧ Holds (s ++ t) b')
    ?nil ?menu ?other ha hp s b hb
  case nil =>
    intro _ _ s b hb
    exact ⟨b, .nil, by rwa [List.append_nil]⟩
  case menu =>
    intro slot t _ ih ha hp s b hb
    have hslot : Writable slot :=
      (hp (.single (.rememberSelection slot)) (by simp [menuActions]) _
        (List.mem_singleton_self _)).writable (by simp [Instruction.numbers])
    have hmenu := reads_menu (w := w) hslot hb
    obtain ⟨b', hrest, hb'⟩ := ih (fun a h => ha a (List.mem_append_right _ h))
      (fun a h => hp a (List.mem_append_right _ h)) _ _ (.closed (s := s ++ menuActions slot))
    rw [List.append_assoc] at hb'
    exact ⟨b', hmenu.append hrest, hb'⟩
  case other =>
    intro a t hhalf _ ih ha hp s b hb
    obtain ⟨b₁, hfirst, hb₁⟩ := exists_reads_action (w := w) hhalf (ha a List.mem_cons_self)
      (hp a List.mem_cons_self) hb
    obtain ⟨b', hrest, hb'⟩ := ih (fun c h => ha c (List.mem_cons_of_mem _ h))
      (fun c h => hp c (List.mem_cons_of_mem _ h)) _ _ hb₁
    rw [List.append_assoc] at hb'
    exact ⟨b', hfirst.append hrest, hb'⟩

end

end Body

/-! ### Catalogs -/

namespace Loading

variable {l : Loading} {w : Closing}

/-- The end marker completes the script that the body holds. -/
lemma step_scriptEnd {name : Text} {b : Body} {s : Script} (h : l.stage = .inside name b)
    (hb : b.Holds s) :
    (l.step (Keyword.scriptEnd.line [])).stage = .between ∧
      (l.step (Keyword.scriptEnd.line [])).catalog = l.catalog.insert name s := by
  have hplain : (Body.feedPlain s (Keyword.scriptEnd.command (Text.trimEnd []) l.line)).1 =
      .done s := by
    simp only [Body.feedPlain, Keyword.keyword?_command]
  have hfeed := (hb.feed Keyword.keyword?_command (by simp) (by simp)).trans hplain
  obtain ⟨log, hstep⟩ := exists_step_line h (by simp) hfeed
  rw [hstep]
  exact ⟨rfl, rfl⟩

/-- A word on a line of its own names the next script. -/
lemma step_name {name : Text} (h : l.stage = .between) (hn : name.IsWord) :
    (l.step name).stage = .inside name Body.empty ∧ (l.step name).catalog = l.catalog := by
  rw [step, h]
  dsimp only
  rw [hn.dropBlanks_eq, hn.word_eq, hn.afterWord_eq]
  cases name with
  | nil => exact absurd rfl hn.ne_nil
  | cons c name => exact ⟨rfl, rfl⟩

lemma run_script {name : Text} {s : Script} (h : l.stage = .between) (hn : name.IsWord)
    (hs : Script.WellFormed s) (hp : ∀ a ∈ s, ∀ i ∈ a.instructions, i.Presentable) :
    (l.run (name :: Script.sourceLines w s)).stage = .between ∧
      (l.run (name :: Script.sourceLines w s)).catalog = l.catalog.insert name s := by
  obtain ⟨hname, hcatalog⟩ := step_name h hn
  obtain ⟨b, hreads, hb⟩ := Body.exists_reads_script (w := w) hs.menus hs.actions hp .closed
  obtain ⟨hinside, hsame⟩ := hreads _ name hname
  obtain ⟨hend, hinsert⟩ := step_scriptEnd hinside hb
  rw [run_cons, Script.sourceLines, run_append, run_cons, run_nil]
  rw [hsame, hcatalog] at hinsert
  exact ⟨hend, hinsert⟩

/-- Scripts with new names are added in their order. -/
lemma run_entries {es : List (Text × Script)} (h : l.stage = .between)
    (hd : (l.catalog.names ++ es.map Prod.fst).Nodup) (hn : ∀ e ∈ es, e.1.IsWord)
    (hs : ∀ e ∈ es, Script.WellFormed e.2)
    (hp : ∀ e ∈ es, ∀ a ∈ e.2, ∀ i ∈ a.instructions, i.Presentable) :
    (l.run (es.flatMap fun (name, s) => name :: Script.sourceLines w s)).stage = .between ∧
      (l.run (es.flatMap fun (name, s) => name :: Script.sourceLines w s)).catalog =
        ⟨l.catalog.entries ++ es⟩ := by
  induction es generalizing l with
  | nil => exact ⟨h, by simp⟩
  | cons e es ih =>
    obtain ⟨name, s⟩ := e
    obtain ⟨hstage, hcatalog⟩ := run_script (w := w) h (hn _ List.mem_cons_self)
      (hs _ List.mem_cons_self) (hp _ List.mem_cons_self)
    have hnew : name ∉ l.catalog.names := by
      intro hmem
      exact (List.nodup_append.mp hd).2.2 name hmem name (by simp) rfl
    rw [Catalog.insert_of_not_mem hnew] at hcatalog
    -- the names that are still to come differ from those that are there by now
    have hd' : ((l.run (name :: Script.sourceLines w s)).catalog.names ++
        es.map Prod.fst).Nodup := by
      rw [hcatalog]
      simpa [Catalog.names] using hd
    obtain ⟨hrest, hall⟩ := ih hstage hd' (fun e he => hn e (List.mem_cons_of_mem _ he))
      (fun e he => hs e (List.mem_cons_of_mem _ he)) fun e he => hp e (List.mem_cons_of_mem _ he)
    rw [List.flatMap_cons, run_append]
    refine ⟨hrest, hall.trans ?_⟩
    rw [hcatalog, List.append_assoc]
    rfl

end Loading

namespace Catalog

variable {w : Closing}

/-! ### Line breaks -/

lemma newline_not_mem_boxLine {t : Text} (h : t.IsBoxLine) : '\n' ∉ w.boxLine t := by
  cases t with
  | nil => exact Keyword.newline_not_mem_line List.not_mem_nil
  | cons c t => exact Keyword.newline_not_mem_line (w.newline_not_mem_payload h.newline)

lemma newline_not_mem_instruction {i : Instruction} (h : i.WellFormed) :
    ∀ t ∈ i.sourceLines w, '\n' ∉ t := by
  intro t ht
  by_cases hline : i.IsOneLine
  · obtain ⟨o, arguments, hi, hlines⟩ := i.exists_command? hline w
    rw [hlines, List.mem_singleton] at ht
    rw [ht]
    exact Keyword.newline_not_mem_line (Instruction.newline_not_mem_of_command? hi h)
  · cases i with
    | fadeInBeforeWait => cases ht
    | rememberSelection slot =>
      rw [List.mem_singleton.mp ht]
      exact Keyword.newline_not_mem_line (Text.newline_not_mem_fields _)
    | messageBox y width height ls =>
      rcases List.mem_cons.mp ht with rfl | ht
      · exact Keyword.newline_not_mem_line (Text.newline_not_mem_fields _)
      · obtain ⟨u, hu, rfl⟩ := List.mem_map.mp ht
        exact newline_not_mem_boxLine (h u hu)
    | _ => exact absurd trivial hline

lemma newline_not_mem_page {page : Script} (h : Script.IsPage page) :
    ∀ t ∈ page.flatMap (Action.pageSource w), '\n' ∉ t := by
  intro t ht
  obtain ⟨a, ha, ht⟩ := List.mem_flatMap.mp ht
  obtain ⟨i, rfl, hfits⟩ := h a ha
  exact newline_not_mem_instruction hfits.2 t ht

lemma newline_not_mem_action {a : Action} (h : a.WellFormed) :
    ∀ t ∈ a.sourceLines w, '\n' ∉ t := by
  cases a with
  | single i => exact newline_not_mem_instruction h
  | pages first others =>
    have hmark (k : Keyword) : '\n' ∉ k.line [] := Keyword.newline_not_mem_line List.not_mem_nil
    intro t ht
    simp only [Action.sourceLines, List.mem_cons, List.mem_append, List.mem_flatMap,
      List.not_mem_nil, or_false] at ht
    rcases ht with rfl | (⟨a, ha, ht⟩ | ⟨page, hpage, rfl | ⟨a, ha, ht⟩⟩) | rfl
    · exact hmark _
    · exact newline_not_mem_page (h first List.mem_cons_self) t (List.mem_flatMap.mpr ⟨a, ha, ht⟩)
    · exact hmark _
    · exact newline_not_mem_page (h page (List.mem_cons_of_mem _ hpage)) t
        (List.mem_flatMap.mpr ⟨a, ha, ht⟩)
    · exact hmark _

lemma newline_not_mem_sourceLines {k : Catalog} (h : k.WellFormed) :
    ∀ t ∈ k.sourceLines w, '\n' ∉ t := by
  intro t ht
  obtain ⟨⟨name, s⟩, he, ht⟩ := List.mem_flatMap.mp ht
  rcases List.mem_cons.mp ht with rfl | ht
  · intro hc
    cases (h.words t (List.mem_map.mpr ⟨_, he, rfl⟩)).not_blank _ hc
  · rcases List.mem_append.mp ht with ht | ht
    · obtain ⟨a, ha, ht⟩ := List.mem_flatMap.mp ht
      exact newline_not_mem_action ((h.scripts _ he).actions a ha) t ht
    · rw [List.mem_singleton.mp ht]
      exact Keyword.newline_not_mem_line List.not_mem_nil

/-- **The round trip.** A presentable catalog is what its written form is loaded as, with a line
break after the last line or without. -/
theorem load_write (w : Closing) {k : Catalog} (h : k.Presentable) :
    load (k.write w) = .ok k ∧ load (k.write w ++ ['\n']) = .ok k := by
  have hd : (Loading.start.catalog.names ++ k.entries.map Prod.fst).Nodup := h.distinct
  obtain ⟨hstage, hcatalog⟩ := Loading.run_entries (w := w) (l := Loading.start) rfl hd
    (fun e he => h.words e.1 (List.mem_map.mpr ⟨e, he, rfl⟩)) h.scripts h.presentable
  have hresult : (Loading.start.run (k.sourceLines w)).result = .ok k := by
    unfold Catalog.sourceLines
    rw [Loading.result, hstage, hcatalog]
    rfl
  -- an empty line after the scripts changes nothing
  have hnil (l : Loading) : (l.step []).result = l.result := by
    rw [Loading.step_nil]
    rfl
  have hload : load (k.write w) = .ok k := by
    by_cases hempty : k.sourceLines w = []
    · rw [hempty] at hresult
      rw [load, Loading.ofSource, write, hempty]
      exact (hnil _).trans hresult
    · rw [load, Loading.ofSource, write,
        Text.lines_intercalate hempty (newline_not_mem_sourceLines h.toWellFormed), hresult]
  refine ⟨hload, ?_⟩
  rw [load, Loading.ofSource, Text.lines_append_newline, Loading.run_append, Text.lines_nil]
  exact (hnil _).trans hload

/-- Two scripts with a menu, a box, pages and each kind of drawing. -/
def tour : Catalog := ⟨[
  ("Intro".toList,
    Body.menuActions 3 ++
    [.single (.text (-1) 2 "Hi ".toList),
      .single (.messageBox 5 20 7 ["a".toList, [], " b".toList]),
      .pages [.single .fadeIn] [[.single (.sprite 4 4 7 2)], []]]),
  ("Outro".toList,
    [.single (.bigText 0 4 15 []), .single (.checkBoxes 1 [⟨2, 3⟩]),
      .single (.picture "A".toList)])]⟩

theorem load_write_tour :
    tour.sourceLines .bare =
      (["Intro", "//MENU 3", "//XYTEXT -1 2 Hi \r;", "//CENTERWINDOW 5 7 20", "//CWTEXT a", "//SKLINE",
        "//CWTEXT  b", "//PAGESSTART", "//FADEIN", "//APAGE", "//XYTEXT 2 3 \u00ef00702", "//APAGE",
        "//PAGESEND", "//END", "Outro", "//XYTEXT 0 4 \u00ff", "//TOGGS 1 1 2 3", "//LOADRAW A",
        "//END"].map String.toList) ∧
    load (tour.write .bare) = .ok tour ∧ load (tour.write .remark ++ ['\n']) = .ok tour := by
  have h : tour.Presentable := by decide +kernel
  exact ⟨by decide +kernel, (load_write .bare h).1, (load_write .remark h).2⟩

end Catalog

end Cutscene
