import Cutscene.Proofs.Loading

/-!
One text of scripts after another.

Loading reads no further than the end of a script, so a second text can follow a complete one. Its
scripts go on top of those of the first: a name keeps its first place and gets its last script.
What is wrong with the second text is still wrong, further down.
-/

namespace Cutscene

/-! ### Catalogs -/

namespace Catalog

/-- Two catalogs in one. The names of the first come first, and a script of the second takes the
place of one with its name. -/
def overlaid (a b : Catalog) : Catalog :=
  ⟨a.entries.map (fun e => (e.1, (b.find? e.1).getD e.2)) ++
    b.entries.filter fun e => e.1 ∉ a.names⟩

lemma overlaid_empty (a : Catalog) : a.overlaid empty = a := by
  simp [overlaid, empty, find?]

lemma names_overlaid (a b : Catalog) :
    (a.overlaid b).names = a.names ++ b.names.filter (· ∉ a.names) := by
  simp only [overlaid, names, List.map_append, List.map_map, List.filter_map]
  rfl

lemma mem_names_overlaid {a b : Catalog} {name : Text} :
    name ∈ (a.overlaid b).names ↔ name ∈ a.names ∨ name ∈ b.names := by
  rw [names_overlaid, List.mem_append, List.mem_filter]
  by_cases h : name ∈ a.names <;> simp [h]

lemma find?_eq_none {k : Catalog} {name : Text} (h : name ∉ k.names) : k.find? name = none := by
  rw [find?, List.lookup_eq_none_iff]
  intro e he
  have : e.1 ∈ k.names := List.mem_map_of_mem he
  simpa using fun heq : name = e.1 => h (heq ▸ this)

/-- The script of one name is replaced, and no other script. -/
lemma lookup_map_replace (es : List (Text × Script)) (name other : Text) (s : Script) :
    (es.map fun e => if e.1 = name then (name, s) else e).lookup other =
      if other = name then (es.lookup name).map fun _ => s else es.lookup other := by
  induction es with
  | nil => simp
  | cons e es ih =>
    obtain ⟨key, script⟩ := e
    rw [List.map_cons]
    by_cases hkey : key = name
    · subst hkey
      by_cases ho : other = key
      · simp [ho]
      · have hb : (other == key) = false := by simpa using ho
        simp only [if_true, List.lookup_cons, hb, ih, if_neg ho]
    · by_cases ho : other = name
      · subst ho
        have hb : (other == key) = false := by simpa using Ne.symm hkey
        simpa only [if_neg hkey, List.lookup_cons, hb, if_true] using ih
      · simp only [if_neg hkey, if_neg ho, List.lookup_cons] at ih ⊢
        rw [ih]

/-- A name stands for the script that was put in under it, every other name for what it did. -/
lemma find?_insert (k : Catalog) (name other : Text) (s : Script) :
    (k.insert name s).find? other = if other = name then some s else k.find? other := by
  by_cases h : name ∈ k.names
  · have hsome : (k.entries.lookup name).isSome := by
      obtain ⟨e, he, rfl⟩ := List.mem_map.mp h
      exact List.lookup_isSome_iff.mpr ⟨e, he, by simp⟩
    obtain ⟨old, hold⟩ := Option.isSome_iff_exists.mp hsome
    rw [insert_of_mem h, find?, lookup_map_replace, hold]
    rfl
  · rw [insert_of_not_mem h, find?, List.lookup_append]
    by_cases ho : other = name
    · subst ho
      rw [← find?, find?_eq_none h]
      simp
    · have hb : (other == name) = false := by simpa using ho
      rw [List.lookup_cons, hb, if_neg ho]
      simp [find?]

/-- Replacing the script of a name changes no entries that are without the name. -/
lemma map_replace_of_not_mem {es : List (Text × Script)} {name : Text}
    (h : name ∉ es.map Prod.fst) (s : Script) :
    (es.map fun e => if e.1 = name then (name, s) else e) = es := by
  refine (List.map_congr_left fun e he => if_neg ?_).trans (List.map_id es)
  rintro rfl
  exact h (List.mem_map_of_mem he)

/-- Putting a script into the second catalog puts it into both. -/
lemma overlaid_insert (a b : Catalog) (name : Text) (s : Script) :
    a.overlaid (b.insert name s) = (a.overlaid b).insert name s := by
  -- the places of the first catalog
  have hfirst : (a.entries.map fun e => (e.1, ((b.insert name s).find? e.1).getD e.2)) =
      (a.entries.map fun e => (e.1, (b.find? e.1).getD e.2)).map
        fun e => if e.1 = name then (name, s) else e := by
    rw [List.map_map]
    refine List.map_congr_left fun e _ => ?_
    by_cases he : e.1 = name <;> simp [find?_insert, he]
  by_cases hb : name ∈ b.names
  · -- the name keeps its place, in whichever catalog that is
    rw [insert_of_mem (mem_names_overlaid.mpr (.inr hb)), overlaid, hfirst, insert_of_mem hb]
    simp only [overlaid, List.map_append, List.filter_map]
    refine congrArg (fun es => Catalog.mk (_ ++ es)) (congrArg _ (List.filter_congr fun e _ => ?_))
    by_cases he : e.1 = name <;> simp [he]
  · have hrest : (b.entries.filter fun e => e.1 ∉ a.names).map
        (fun e => if e.1 = name then (name, s) else e) = b.entries.filter fun e => e.1 ∉ a.names :=
      map_replace_of_not_mem (fun h => by
        obtain ⟨e, he, rfl⟩ := List.mem_map.mp h
        exact hb (List.mem_map_of_mem (List.mem_filter.mp he).1)) s
    by_cases ha : name ∈ a.names
    · -- the name has a place in the first catalog and none in the second
      rw [insert_of_mem (mem_names_overlaid.mpr (.inl ha)), overlaid, hfirst, insert_of_not_mem hb]
      simp only [overlaid, List.map_append, List.filter_append, hrest]
      simp [ha]
    · -- the name is new
      have hnew : name ∉ (a.overlaid b).names := fun h =>
        (mem_names_overlaid.mp h).elim ha hb
      rw [insert_of_not_mem hnew, overlaid, hfirst, insert_of_not_mem hb,
        map_replace_of_not_mem (by simpa [names] using ha) s]
      simp [overlaid, ha]

end Catalog

/-! ### Loadings -/

/-- The fault as it is in a text with that many lines before. -/
def Fault.later (n : Int) (f : Fault) : Fault := f.mapLine (· + n)

namespace Loading

/-- The stage in a text with that many lines before. -/
def Stage.later (n : Int) : Stage → Stage
  | .stopped f => .stopped (f.later n)
  | s => s

/-- The second loading is where the first one is, after more lines and with the scripts of those
lines under its own. -/
structure Follows (base : Catalog) (n : Int) (l m : Loading) : Prop where
  catalog : m.catalog = base.overlaid l.catalog
  stage : m.stage = l.stage.later n
  line : m.line = l.line + n

variable {base : Catalog} {n : Int} {l m : Loading}

lemma Follows.goOn (h : Follows base n l m) (s : Stage) (log log' : Log) :
    Follows base n (l.goOn s log) (m.goOn (s.later n) log') where
  catalog := h.catalog
  stage := rfl
  line := by
    simp only [Loading.goOn, h.line]
    omega

lemma Follows.complete (h : Follows base n l m) (name : Text) (s : Script) (log log' : Log) :
    Follows base n (l.complete name s log) (m.complete name s log') where
  catalog := by
    simp only [Loading.complete, h.catalog, Catalog.overlaid_insert]
  stage := rfl
  line := by
    simp only [Loading.complete, h.line]
    omega

lemma Follows.bodyLine (h : Follows base n l m) (name : Text) (b : Body) (t : Text) :
    Follows base n (l.bodyLine name b t) (m.bodyLine name b t) := by
  have hc := Command.ofLine?_mapLine (· + n) l.line t
  unfold Loading.bodyLine
  rw [h.line, hc]
  rcases Command.ofLine? l.line t with _ | c
  · exact h.goOn (.inside name b) [] []
  · simp only [Option.map_some, Body.feed_mapLine]
    rcases b.feed c with ⟨b' | s | s | e, log⟩
    · exact h.goOn (.inside name b') log _
    · exact h.complete name s log _
    · exact h.complete name s log _
    · exact h.goOn (.stopped e) log _

lemma Follows.step (h : Follows base n l m) (t : Text) : Follows base n (l.step t) (m.step t) := by
  have hstage := h.stage
  unfold Loading.step
  rcases hl : l.stage with _ | ⟨name, b⟩ | f <;> rw [hl] at hstage <;>
    simp only [Stage.later] at hstage <;> simp only [hstage]
  · split
    · exact h.goOn .between [] []
    · exact h.bodyLine ..
  · exact h.bodyLine ..
  · exact h.goOn (.stopped f) [] []

lemma Follows.run (h : Follows base n l m) (ts : List Text) :
    Follows base n (l.run ts) (m.run ts) := by
  induction ts generalizing l m with
  | nil => exact h
  | cons t ts ih => exact ih (h.step t)

lemma Follows.result (h : Follows base n l m) :
    m.result = (base.overlaid <$> l.result).mapError (Fault.later n) := by
  unfold Loading.result
  rw [h.stage]
  rcases l.stage with _ | ⟨name, b⟩ | f
  · simp only [Stage.later, h.catalog]
    rfl
  · rfl
  · rfl

end Loading

namespace Catalog

/-- After a complete text, a second one loads as it does alone, but for the scripts before it and
the numbers of its lines. -/
lemma load_append_newline {a : Catalog} {s : Text} (h : load s = .ok a) (t : Text) :
    load (s ++ '\n' :: t) =
      (a.overlaid <$> load t).mapError (Fault.later (s.count '\n' + 1)) := by
  obtain ⟨hstage, hcatalog⟩ := Loading.stage_of_result_ok h
  have hstart : Loading.Follows a (s.count '\n' + 1) Loading.start (Loading.ofSource s) := by
    refine ⟨?_, hstage, ?_⟩
    · rw [hcatalog]
      exact (overlaid_empty a).symm
    · unfold Loading.ofSource
      rw [Loading.line_run, Text.length_lines, Int.natCast_succ]
  unfold load Loading.ofSource
  rw [Text.lines_append_newline, Loading.run_append]
  exact (hstart.run (Text.lines t)).result

/-- **Concatenation.** After a complete text, the scripts of a second one go on top of those of the
first. A fault of the second one is the same fault; if it names a line, that line is further down,
also in the words of the fault. -/
theorem load_concatenation {a : Catalog} {s : Text} (h : load s = .ok a) (t : Text) :
    (∀ b, load t = .ok b → load (s ++ '\n' :: t) = .ok (a.overlaid b)) ∧
    (∀ e n, load t = .error (.script e) → e.line = some n →
      ∃ e', load (s ++ '\n' :: t) = .error (.script e') ∧
        e' = { e with line := some (n + 1 + s.count '\n') } ∧
        e'.message = e.reason ++ " (line ".toList ++ Text.ofInt (n + 1 + s.count '\n') ++
          ")".toList) ∧
    ∀ f, load t = .error f → (∀ e, f = .script e → e.line = none) →
      load (s ++ '\n' :: t) = .error f := by
  have hload := load_append_newline h t
  refine ⟨?_, ?_, ?_⟩
  · intro b hb
    rw [hload, hb]
    rfl
  · intro e n he hn
    have hline : n + 1 + (s.count '\n' : Int) = n + (s.count '\n' + 1) := by omega
    refine ⟨_, ?_, rfl, ?_⟩
    · rw [hload, he, hline]
      simp [Except.mapError, Fault.later, Fault.mapLine, hn]
    · simp [ScriptError.message, ScriptError.reason]
  · intro f hf hnone
    rw [hload, hf]
    cases f with
    | script e =>
      obtain ⟨cause, command, line⟩ := e
      have hline : line = none := hnone _ rfl
      rw [hline]
      rfl
    | _ => rfl

/-- A script that is defined anew keeps its place, and a fault moves down. -/
theorem load_redefined_and_faulty :
    load "A\n//WAIT\n//END\n\nB\n//END\nA\n//END".toList =
      .ok ⟨[("A".toList, []), ("B".toList, [])]⟩ ∧
    load "A\n//WAIT\n//END\n\nB\n//DELAY 0".toList =
      .error (.script ⟨.badArgument, some "DELAY".toList, some 6⟩) := by
  have h : load "A\n//WAIT\n//END\n".toList = .ok ⟨[("A".toList, [.single .waitForInput])]⟩ := by
    decide +kernel
  have hsecond : load "B\n//END\nA\n//END".toList = .ok ⟨[("B".toList, []), ("A".toList, [])]⟩ := by
    decide +kernel
  have hfaulty : load "B\n//DELAY 0".toList =
      .error (.script ⟨.badArgument, some "DELAY".toList, some 2⟩) := by
    decide +kernel
  obtain ⟨hok, -, -⟩ := load_concatenation h "B\n//END\nA\n//END".toList
  obtain ⟨-, herror, -⟩ := load_concatenation h "B\n//DELAY 0".toList
  obtain ⟨e', he', rfl, -⟩ := herror _ 2 hfaulty rfl
  exact ⟨hok _ hsecond, he'⟩

end Catalog

end Cutscene
