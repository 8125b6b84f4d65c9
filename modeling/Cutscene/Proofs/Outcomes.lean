import Cutscene.App.Job
import Cutscene.Proofs.Numbers
import Cutscene.Proofs.RoundTrip

/-!
How the program ends.

It ends in order if it succeeds, or if it tells in a line of its own what is wrong. Whatever is
wrong with a script is told. Only numbers with too many digits break the program off, those that are
to be read and those that are to be printed, and an indentation that cannot be counted or that the
machine cannot hold. Memory for anything else is not counted.
-/

namespace Cutscene

/-! ### Latin-1 -/

namespace Bytes

/-- The text of the bytes, with one character for each. -/
def latin1 (bytes : Bytes) : Text := bytes.map Encoding.ofByte

/-- Whatever the bytes are, they are a text in Latin-1. -/
lemma decode_latin1 {name : Text} (h : Encoding.ofName? name = some .latin1) (bytes : Bytes) :
    bytes.decode name = .ok bytes.latin1 := by
  cases bytes with
  | nil => exact Bytes.decode_nil name
  | cons b bs =>
    simp only [Bytes.decode, h]
    rfl

/-- Every text of the first 256 characters is written as bytes. -/
lemma latin1_map_toUInt8 {t : Text} (h : t.all (·.toNat < 256) = true) :
    latin1 (t.map Char.toUInt8) = t := by
  have hchar : ∀ c ∈ t, Encoding.ofByte c.toUInt8 = c := fun c hc => by
    have hbyte : c.toUInt8.toNat = c.toNat := by
      rw [Char.toUInt8, UInt32.toNat_toUInt8]
      exact Nat.mod_eq_of_lt (of_decide_eq_true (List.all_eq_true.mp h c hc))
    rw [Encoding.ofByte, hbyte]
    exact Char.ofNat_toNat c
  rw [latin1, List.map_map]
  exact (List.map_congr_left hchar).trans (List.map_id t)

end Bytes

/-! ### What cannot be read -/

/-- The only faults of a text are the errors in its scripts, and numerals that are too long. -/
lemma Catalog.fault_of_load {s : Text} {f : Fault} (h : load s = .error f) :
    (∃ e, f = .script e) ∨ ∃ n, f = .numeralTooLong n := by
  rcases explained_of_load h with ⟨e, he, -⟩ | ⟨d, -, -, -, hd⟩
  · exact .inl ⟨e, he⟩
  · exact .inr ⟨d.length, hd⟩

/-- A text whose digits fit has no numeral that is too long. -/
lemma Text.DigitsFit.load_ne {s : Text} (h : s.DigitsFit) (n : Nat) :
    Catalog.load s ≠ .error (.numeralTooLong n) := by
  intro hload
  rcases Catalog.explained_of_load hload with ⟨e, he, -⟩ | hlong
  · cases he
  · exact hlong.not_digitsFit h

/-- A script that delays for a number of these digits. -/
def Text.delayOf (digits : Text) : Text :=
  "A\n".toList ++ Keyword.line (.oneLiner .delay) (' ' :: digits) ++ "\n//END\n".toList

lemma Text.all_delayOf {digits : Text} (h : ∀ c ∈ digits, c.isDigit = true) :
    digits.delayOf.all (·.toNat < 256) = true := by
  have hdigits : digits.all (·.toNat < 256) = true := List.all_eq_true.mpr fun c hc =>
    decide_eq_true ((Char.isDigit_iff_toNat.mp (h c hc)).2.trans_lt (by decide))
  simp only [delayOf, Keyword.line, List.all_append, List.all_cons, hdigits]
  decide

/-- A delay with too many digits cannot be read. -/
lemma Command.instruction?_delay {digits : Text} (hdigits : ∀ c ∈ digits, c.isDigit = true)
    (hlong : digitLimit < digits.length) (line : Int) :
    (Keyword.command (.oneLiner .delay) (' ' :: digits) line).instruction? =
      .error (.numeralTooLong digits.length) := by
  obtain ⟨c, t, rfl⟩ := List.exists_cons_of_length_pos (Nat.zero_lt_of_lt hlong)
  have hdrop : Text.dropBlanks (' ' :: c :: t) = c :: t := by
    rw [Text.dropBlanks_cons_of_isBlank rfl]
    exact Text.dropBlanks_cons_of_not_isBlank
      (Text.not_isBlank_of_isDigit (hdigits c List.mem_cons_self)) t
  have hscan : Numeral.scan? (c :: t) = some (⟨false, c :: t⟩, []) := by
    simpa using Numeral.scan?_digits (List.cons_ne_nil c t) hdigits Text.endsNumber_nil
  have hread : Numeral.read ⟨false, c :: t⟩ = .error (.numeralTooLong (c :: t).length) :=
    if_pos (decide_eq_true hlong)
  have hint : Arguments.int ⟨' ' :: c :: t, false⟩ =
      (.error (.numeralTooLong (c :: t).length), ⟨[], false⟩) := by
    simp only [Arguments.int, hdrop, hscan, hread]
    rfl
  rw [instruction?_of_oneLiner Keyword.keyword?_command, Keyword.unread_command,
    OneLiner.instruction, Take.runOn_bind, Take.intWith, Take.runOn_bind, Take.runOn_int, hint]
  rfl

/-- **A file with a delay of too many digits** does not load, and its fault is none of a script. -/
lemma Catalog.load_delayOf {digits : Text} (hdigits : ∀ c ∈ digits, c.isDigit = true)
    (hlong : digitLimit < digits.length) :
    load digits.delayOf = .error (.numeralTooLong digits.length) := by
  have hlines : Text.lines digits.delayOf =
      ["A".toList, Keyword.line (.oneLiner .delay) (' ' :: digits)] ++ ["//END".toList, []] := by
    have hline : '\n' ∉ Keyword.line (.oneLiner .delay) (' ' :: digits) := by
      have hnewline : '\n' ∉ digits := fun h => by cases hdigits _ h
      simp [Keyword.line, hnewline]
      decide
    rw [Text.delayOf, show "A\n".toList = "A".toList ++ ['\n'] from rfl,
      show "\n//END\n".toList = '\n' :: "//END\n".toList from rfl, List.append_assoc,
      List.append_assoc, List.singleton_append, Text.lines_append_newline,
      Text.lines_append_newline, Text.lines_of_not_mem hline]
    rfl
  have htrim : Text.trimEnd (' ' :: digits) = ' ' :: digits := by
    refine Text.trimEnd_of_visible fun c hc => ?_
    rw [List.getLast?_cons_of_ne_nil (List.ne_nil_of_length_pos (Nat.zero_lt_of_lt hlong))] at hc
    exact Text.not_isBlank_of_isDigit (hdigits c (List.mem_of_getLast? hc))
  have hfeed (line : Int) : (Body.empty.feed
      (Keyword.command (.oneLiner .delay) (Text.trimEnd (' ' :: digits)) line)).1 =
        .fail (.numeralTooLong digits.length) := by
    simp only [htrim, Body.feed, Body.empty, Body.feedPlain, Keyword.keyword?_command,
      Command.instruction?_delay hdigits hlong]
  have hname : Text.IsWord "A".toList := by decide
  obtain ⟨log, hstep⟩ := Loading.exists_step_line (Loading.step_name rfl hname).1
    (by simp [Text.isBlank]) (hfeed (Loading.start.step "A".toList).line)
  have hstopped : (Loading.start.run
      ["A".toList, Keyword.line (.oneLiner .delay) (' ' :: digits)]).stage =
        .stopped (.numeralTooLong digits.length) := by
    rw [Loading.run_cons, Loading.run_cons, Loading.run_nil, hstep]
    rfl
  rw [load, Loading.ofSource, hlines, Loading.run_append]
  exact Loading.result_of_stopped (Loading.stage_run_of_stopped hstopped _)

namespace App

/-- The program succeeds, or its first line tells an error. Nothing breaks it off. -/
inductive Report.Orderly : Report → Prop
  | success (lines : List Text) (log : Log) : Orderly ⟨0, lines, log, none⟩
  | error (message : Text) (advice : List Text) (log : Log) :
      Orderly ⟨1, ("Error: ".toList ++ message) :: advice, log, none⟩

/-- So many spaces can be counted, and the machine can hold them. -/
structure Machine.IndentFits (m : Machine) (indent : Int) : Prop where
  low : -indentLimit ≤ indent
  high : indent < indentLimit
  held : indent ≤ m.spaces

namespace Task

def IndentFits (m : Machine) : Task → Prop
  | check | overview | listing _ => True
  | dump _ indent => m.IndentFits indent

/-- What the task prints of a catalog can be printed: its numbers are not too long, and neither is
its indentation. Where there is no script of the name, nothing is printed. -/
def CanPrint (m : Machine) (k : Catalog) : Task → Prop
  | check | overview => True
  | listing name => ∀ s, k.find? name = some s → s.AllWritable
  | dump none indent => m.IndentFits indent ∧ ∀ e ∈ k.entries, Script.AllWritable e.2
  | dump (some name) indent =>
    ∀ s, k.find? name = some s → m.IndentFits indent ∧ s.AllWritable

end Task

/-! ### Reports -/

namespace Report

lemma orderly_success (lines : List Text) : (success lines).Orderly := .success lines []

lemma orderly_error (message : Text) (advice : List Text) : (error message advice).Orderly :=
  .error (closed message) advice []

lemma not_orderly_broken (b : Breakdown) (lines : List Text) : ¬ (broken b lines).Orderly := by
  rintro ⟨⟩

lemma orderly_withLog_iff {r : Report} {log : Log} : (r.withLog log).Orderly ↔ r.Orderly := by
  obtain ⟨exitCode, lines, log', breakdown⟩ := r
  constructor
  · rintro (_ | _)
    · exact .success lines log'
    · exact .error _ _ log'
  · rintro (_ | _)
    · exact .success lines log
    · exact .error _ _ log

end Report

/-! ### Tasks -/

variable {m : Machine}

lemma orderly_printed_iff {indent : Int} {k : Catalog} :
    (printed m indent k).Orderly ↔
      m.IndentFits indent ∧ ∀ e ∈ k.entries, Script.AllWritable e.2 := by
  unfold printed
  split
  · rename_i huncounted
    refine iff_of_false (Report.not_orderly_broken _ _) fun h => ?_
    have hlow := h.1.low
    have hhigh := h.1.high
    omega
  · rename_i hcounted
    split
    · rename_i hlarge
      exact iff_of_false (Report.not_orderly_broken _ _) fun h => absurd h.1.held (by omega)
    · rename_i hheld
      have hfits : m.IndentFits indent := ⟨by omega, by omega, by omega⟩
      split
      · rename_i hwritable
        exact iff_of_true (Report.orderly_success _) ⟨hfits, hwritable⟩
      · rename_i hwritable
        exact iff_of_false (Report.not_orderly_broken _ _) fun h => hwritable h.2

lemma orderly_runListing_iff {path name : Text} {k : Catalog} :
    (runListing path name k).Orderly ↔ (Task.listing name).CanPrint m k := by
  simp only [runListing, Task.CanPrint]
  rcases k.find? name with _ | s
  · exact iff_of_true (Report.orderly_error _ _) (by simp)
  · by_cases hempty : s.isEmpty
    · have hnone : Script.AllWritable [] := by simp [Script.AllWritable, Action.numbersOfAll]
      rw [List.isEmpty_iff.mp hempty]
      exact iff_of_true (Report.orderly_success _) (by simp [hnone])
    · by_cases hwritable : s.AllWritable
      · simp only [hempty, Script.listing, hwritable]
        exact iff_of_true (Report.orderly_success _) (by simp [hwritable])
      · simp only [hempty, Script.listing, hwritable]
        exact iff_of_false (Report.not_orderly_broken _ _) (by simp [hwritable])

/-- **A task** ends in order if it can print what it is to print. -/
lemma Task.orderly_run_iff {path : Text} {k : Catalog} (t : Task) :
    (t.run m path k).Orderly ↔ t.CanPrint m k := by
  cases t with
  | check | overview => exact iff_of_true (Report.orderly_success _) trivial
  | listing name => exact orderly_runListing_iff
  | dump name indent =>
    cases name with
    | none => exact orderly_printed_iff
    | some name =>
      simp only [run, runDump, CanPrint]
      rcases k.find? name with _ | s
      · exact iff_of_true (Report.orderly_error _ _) (by simp)
      · simp [orderly_printed_iff]

/-- Numbers that are reached from short numerals can be printed. -/
lemma Task.canPrint_of_modest {s : Text} {k : Catalog} (hs : s.Modest) (h : Catalog.load s = .ok k)
    {t : Task} (ht : t.IndentFits m) : t.CanPrint m k := by
  have hentries : ∀ e ∈ k.entries, Script.AllWritable e.2 := fun e he n hn =>
    (Catalog.reaches_of_load h e he n hn).writable hs
  have hfind (name : Text) (u : Script) (hu : k.find? name = some u) : u.AllWritable := by
    obtain ⟨before, after, hk, -⟩ := List.lookup_eq_some_iff.mp hu
    exact hentries (name, u) (by rw [hk]; simp)
  cases t with
  | check | overview => trivial
  | listing name => exact hfind name
  | dump name indent =>
    cases name with
    | none => exact ⟨ht, hentries⟩
    | some name => exact fun u hu => ⟨ht, hfind name u hu⟩

/-! ### Files -/

/-- **A text** is worked on in order if none of its numerals is too long, and what is printed of it
can be printed. -/
lemma orderly_runOnText_iff {path source : Text} {task : Task} :
    (runOnText m path task source).1.Orderly ↔
      (∀ n, Catalog.load source ≠ .error (.numeralTooLong n)) ∧
        ∀ k, Catalog.load source = .ok k → task.CanPrint m k := by
  unfold runOnText
  rcases h : Catalog.load source with f | k
  · rcases Catalog.fault_of_load h with ⟨e, rfl⟩ | ⟨n, rfl⟩
    · exact iff_of_true (Report.orderly_error _ _) (by simp)
    · exact iff_of_false (Report.not_orderly_broken _ _) (by simp)
  · simp [task.orderly_run_iff]

lemma Job.settings_of_ofArguments {env : Environment} {arguments : List Text} {job : Job}
    (h : Job.ofArguments env arguments = .ok job) : job.settings = Settings.ofEnvironment env := by
  unfold Job.ofArguments at h
  rcases hprogram : (readProgram arguments).mapError Report.ofRefusal with r | ⟨verbose, rest⟩ <;>
    rw [hprogram] at h
  · cases h
  · rcases htask : (readTask rest).mapError Report.ofRefusal with r | ⟨path, task⟩ <;>
      rcases hsettings : Settings.ofEnvironment env with problems | settings <;>
      cases verbose <;> simp only [bind, Except.bind, htask, hsettings] at h <;> cases h <;> rfl

section Run

variable {directory : Directory} {env : Environment} {arguments : List Text} {job : Job}
  {settings : Settings} {bytes : Bytes}

lemma orderly_run_iff (hjob : Job.ofArguments env arguments = .ok job)
    (hsettings : Settings.ofEnvironment env = .ok settings)
    (hlatin : Encoding.ofName? settings.encoding = some .latin1)
    (hfile : directory.file? job.path = some bytes) :
    (run directory env arguments m).Orderly ↔
      (∀ n, Catalog.load bytes.latin1 ≠ .error (.numeralTooLong n)) ∧
        ∀ k, Catalog.load bytes.latin1 = .ok k → job.task.CanPrint m k := by
  have hjobSettings : job.settings = .ok settings :=
    (Job.settings_of_ofArguments hjob).trans hsettings
  simp only [run, hjob, Job.run, hfile, hjobSettings, Report.orderly_withLog_iff, runOnBytes,
    Bytes.decode_latin1 hlatin]
  exact orderly_runOnText_iff

/-- **How the program ends**, on any machine, when its command line and its settings are right and
there is a file that is read as Latin-1. It ends in order if no numeral that is read from the file is
too long, and if what it is asked to print can be printed; otherwise it breaks off. If no run of
digits in the file is too long, then no numeral is. If all of them are shorter than that, then
everything ends in order for which the indentation fits. Here a machine holds all but an indentation
that is too wide for it. -/
theorem orderly_run (hjob : Job.ofArguments env arguments = .ok job)
    (hsettings : Settings.ofEnvironment env = .ok settings)
    (hlatin : Encoding.ofName? settings.encoding = some .latin1)
    (hfile : directory.file? job.path = some bytes) :
    ((run directory env arguments m).Orderly ↔
      (∀ n, Catalog.load bytes.latin1 ≠ .error (.numeralTooLong n)) ∧
        ∀ k, Catalog.load bytes.latin1 = .ok k → job.task.CanPrint m k) ∧
    (Text.DigitsFit bytes.latin1 →
      ∀ n, Catalog.load bytes.latin1 ≠ .error (.numeralTooLong n)) ∧
    (Text.Modest bytes.latin1 → job.task.IndentFits m →
      (run directory env arguments m).Orderly) := by
  have hiff := orderly_run_iff (m := m) hjob hsettings hlatin hfile
  refine ⟨hiff, fun hfit => hfit.load_ne, fun hmodest hindent => hiff.mpr ⟨?_, fun k hk => ?_⟩⟩
  · exact hmodest.digitsFit.load_ne
  · exact Task.canPrint_of_modest hmodest hk hindent

end Run

/-- A file with a short delay is printed as data. -/
theorem orderly_run_short_delay :
    (run [("TEXT.MNI".toList, (Text.delayOf ['9']).map Char.toUInt8)] []
      ["script".toList, "dump".toList, "TEXT.MNI".toList]).Orderly := by
  have hlatin : Encoding.ofName? "latin-1".toList = some .latin1 := by decide +kernel
  have hjob : Job.ofArguments [] ["script".toList, "dump".toList, "TEXT.MNI".toList] =
      .ok ⟨.ok ⟨"latin-1".toList, .warning, false⟩, false, "TEXT.MNI".toList, .dump none 2⟩ := rfl
  have hmodest : Text.Modest (Bytes.latin1 ((Text.delayOf ['9']).map Char.toUInt8)) := by
    rw [Bytes.latin1_map_toUInt8 (by decide)]
    exact Text.modest_of_length (by decide)
  have hindent : Task.IndentFits .usual (.dump none 2) := ⟨by decide, by decide, by decide⟩
  exact (orderly_run hjob rfl hlatin rfl).2.2 hmodest hindent

/-- A delay with one digit too many breaks even the check of its file off. -/
theorem not_orderly_run_long_delay :
    ¬ (run [("TEXT.MNI".toList, (Text.delayOf (List.replicate 4301 '9')).map Char.toUInt8)] []
      ["script".toList, "check".toList, "TEXT.MNI".toList]).Orderly := by
  have hlatin : Encoding.ofName? "latin-1".toList = some .latin1 := by decide +kernel
  have hjob : Job.ofArguments [] ["script".toList, "check".toList, "TEXT.MNI".toList] =
      .ok ⟨.ok ⟨"latin-1".toList, .warning, false⟩, false, "TEXT.MNI".toList, .check⟩ := rfl
  have hdigits : ∀ c ∈ List.replicate 4301 '9', c.isDigit = true := fun c hc =>
    List.eq_of_mem_replicate hc ▸ rfl
  have hlength : (List.replicate 4301 '9').length = 4301 := List.length_replicate
  have hlong : digitLimit < (List.replicate 4301 '9').length := by
    rw [hlength]
    decide
  intro horderly
  refine ((orderly_run_iff hjob rfl hlatin rfl).mp horderly).1 4301 ?_
  rw [Bytes.latin1_map_toUInt8 (Text.all_delayOf hdigits), Catalog.load_delayOf hdigits hlong,
    hlength]

end App

end Cutscene
