import Cutscene.Proofs.JsonReading
import Cutscene.Proofs.Outcomes

/-!
The export loses nothing.

An object tells the kind of its action by its tag, and the kind tells what the fields are, so an
action can be told from its object, however deep its pages are nested. Since what is printed is read
back, a catalog can be told from the text that is printed for it.
-/

namespace Cutscene

/-! ### Instructions -/

namespace Json

def text? : Json → Option Text
  | string t => some t
  | _ => none

/-- The check box with the values of an object. -/
def checkBox? : Json → Option CheckBox
  | object [(_, number y), (_, number id)] => some ⟨y, id⟩
  | _ => none

end Json

namespace Instruction

/-- The instruction of a kind, from the values of its fields. -/
def ofValues? : Kind → List Json → Option Instruction
  | .fadeIn, [] => some fadeIn
  | .fadeOut, [] => some fadeOut
  | .delay, [.number n] => some (delay n)
  | .fadeInBeforeWait, [] => some fadeInBeforeWait
  | .text, [.number x, .number y, .string t] => some (text x y t)
  | .bigText, [.number x, .number y, .number color, .string t] => some (bigText x y color t)
  | .sprite, [.number x, .number y, .number actor, .number frame] => some (sprite x y actor frame)
  | .picture, [.string name] => some (picture name)
  | .palette, [.string name] => some (palette name)
  | .messageBox, [.number y, .number width, .number height, .array lines] =>
    some (messageBox y width height (lines.filterMap Json.text?))
  | .talk, [.number n] => some (talk n)
  | .stopTalking, [] => some stopTalking
  | .disableMenu, [] => some disableMenu
  | .keyBindings, [] => some keyBindings
  | .saveSlots, [.number n] => some (saveSlots n)
  | .selectionMark, [.number y] => some (selectionMark y)
  | .checkBoxes, [.number x, .array boxes] => some (checkBoxes x (boxes.filterMap Json.checkBox?))
  | .rememberSelection, [.number n] => some (rememberSelection n)
  | .waitForInput, [] => some waitForInput
  | .offsetText, [] => some offsetText
  | .demoAfterTimeout, [] => some demoAfterTimeout
  | _, _ => none

/-- **An instruction can be told** from its kind and the values of its fields. -/
lemma ofValues?_fields (i : Instruction) :
    ofValues? i.kind (i.fields.map Prod.snd) = some i := by
  cases i with
  | messageBox y width height lines =>
    have hlines : (lines.map Json.string).filterMap Json.text? = lines := by
      rw [List.filterMap_map]
      exact List.filterMap_some
    simp only [kind, fields, List.map_cons, List.map_nil, ofValues?, hlines]
  | checkBoxes x boxes =>
    have hboxes : (boxes.map CheckBox.toJson).filterMap Json.checkBox? = boxes := by
      rw [List.filterMap_map]
      exact List.filterMap_some
    simp only [kind, fields, List.map_cons, List.map_nil, ofValues?, hboxes]
  | _ => rfl

end Instruction

/-! ### Actions, scripts and catalogs -/

/-- An object tells the kind and the fields. -/
lemma Kind.toJson_inj {k l : Kind} {fs gs : List (Text × Json)} :
    k.toJson fs = l.toJson gs ↔ k = l ∧ fs = gs := by
  constructor
  · intro h
    simp only [Kind.toJson, Json.object.injEq, List.cons.injEq, Prod.mk.injEq, true_and,
      Json.string.injEq] at h
    exact ⟨Kind.tag_injective h.1, h.2⟩
  · rintro ⟨rfl, rfl⟩
    rfl

namespace Action

mutual

/-- **An action can be told** from its object, with all its pages. -/
lemma toJson_injective (a b : Action) (h : a.toJson = b.toJson) : a = b :=
  match a, b with
  | single i, single j => by
    obtain ⟨hkind, hfields⟩ := Kind.toJson_inj.mp h
    have hi := i.ofValues?_fields
    rw [hkind, hfields, j.ofValues?_fields] at hi
    rw [Option.some.inj hi]
  | single i, pages _ _ => absurd (Kind.toJson_inj.mp h).1 i.kind_ne_pages
  | pages _ _, single j => absurd (Kind.toJson_inj.mp h).1.symm j.kind_ne_pages
  | pages first others, pages first' others' => by
    have hfields := (Kind.toJson_inj.mp h).2
    simp only [List.cons.injEq, Prod.mk.injEq, true_and, and_true, Json.array.injEq] at hfields
    rw [scriptItems_injective first first' hfields.1, pageItems_injective others others' hfields.2]

lemma scriptItems_injective (s t : List Action) (h : scriptItems s = scriptItems t) : s = t :=
  match s, t with
  | [], [] => rfl
  | [], _ :: _ | _ :: _, [] => by cases h
  | a :: s, b :: t => by
    obtain ⟨hab, hst⟩ := List.cons.inj h
    rw [toJson_injective a b hab, scriptItems_injective s t hst]

lemma pageItems_injective (ps qs : List (List Action)) (h : pageItems ps = pageItems qs) :
    ps = qs :=
  match ps, qs with
  | [], [] => rfl
  | [], _ :: _ | _ :: _, [] => by cases h
  | p :: ps, q :: qs => by
    obtain ⟨hpq, hrest⟩ := List.cons.inj h
    rw [scriptItems_injective p q (Json.array.inj hpq), pageItems_injective ps qs hrest]

end

end Action

/-- The data of a catalog tell its names, in their order, and its scripts. -/
lemma Catalog.toJson_injective {k l : Catalog} (h : k.toJson = l.toJson) : k = l := by
  obtain ⟨es⟩ := k
  obtain ⟨fs⟩ := l
  congr 1
  refine List.map_injective_iff.mpr ?_ (Json.object.inj h)
  rintro ⟨name, s⟩ ⟨name', t⟩ heq
  obtain ⟨rfl, hscript⟩ := Prod.mk.inj heq
  rw [Action.scriptItems_injective s t (Json.array.inj hscript)]

/-- So does what is printed for it, no matter how it is indented. -/
lemma Catalog.render_injective {k l : Catalog} {indent indent' : Int}
    (h : k.toJson.render indent = l.toJson.render indent') : k = l := by
  have hk := Json.read?_render indent k.toJson
  rw [h, Json.read?_render] at hk
  exact toJson_injective (Option.some.inj hk).symm

/-! ### The task -/

namespace App

variable {m : Machine} {k : Catalog} {indent : Int}

lemma printed_eq (hindent : m.IndentFits indent)
    (hwritable : ∀ e ∈ k.entries, Script.AllWritable e.2) :
    printed m indent k = .success [k.toJson.render indent] := by
  obtain ⟨hlow, hhigh, hheld⟩ := hindent
  unfold printed
  rw [if_neg (by omega), if_neg (by omega), if_pos hwritable]

/-- The text is printed only for what it is the export of. -/
lemma render_of_printed {t : Text} (h : printed m indent k = .success [t]) :
    k.toJson.render indent = t := by
  unfold printed at h
  split at h
  · cases h
  · split at h
    · cases h
    · split at h
      · simpa [Report.success] using h
      · cases h

/-- **The export is lossless.** What is printed of a catalog is plain ASCII, and read as JSON it is
the data of the catalog, whatever the indentation. If the numbers are not too long and the
indentation can be counted and held by the machine, then a dump succeeds and prints just this. Two
catalogs of which the same is printed, on any machines and each with any indentation, are the same:
the same names in the same order, and the same actions down to the last page. -/
theorem dump_lossless :
    (∀ (k : Catalog) (indent : Int),
      (∀ c ∈ k.toJson.render indent, c.toNat < 0x80) ∧
        Json.read? (k.toJson.render indent) = some k.toJson) ∧
    (∀ (m : Machine) (path : Text) (k : Catalog) (indent : Int), m.IndentFits indent →
      (∀ e ∈ k.entries, Script.AllWritable e.2) →
      (Task.dump none indent).run m path k = .success [k.toJson.render indent]) ∧
    (∀ (k l : Catalog) (indent indent' : Int),
      k.toJson.render indent = l.toJson.render indent' → k = l) ∧
    ∀ (m m' : Machine) (path path' : Text) (k l : Catalog) (indent indent' : Int) (t : Text),
      (Task.dump none indent).run m path k = .success [t] →
      (Task.dump none indent').run m' path' l = .success [t] → k = l := by
  refine ⟨fun k indent => ⟨?_, Json.read?_render indent _⟩, ?_, ?_, ?_⟩
  · exact Json.toNat_lt_of_mem_renderAt _ _ _
  · exact fun m path k indent hindent hwritable => printed_eq hindent hwritable
  · exact fun k l indent indent' h => Catalog.render_injective h
  · intro m m' path path' k l indent indent' t hk hl
    exact Catalog.render_injective ((render_of_printed hk).trans (render_of_printed hl).symm)

/-- A script with a letter, a control character and a musical sign in its name, put into an empty
catalog and dumped without indentation. -/
theorem dump_lossless_of_insert :
    ∃ (k l : Catalog) (t : Text),
      k = ⟨[("É\x1b𝄞".toList, [.single (.delay (-5)), .pages [] [[]]])]⟩ ∧
      l = Catalog.empty.insert "É\x1b𝄞".toList [.single (.delay (-5)), .pages [] [[]]] ∧
      (Task.dump none (-1)).run .usual [] k = .success [t] ∧
      (Task.dump none 0).run .usual [] l = .success [t] ∧
      Json.read? t = some k.toJson ∧ k = l ∧ k.names = l.names := by
  obtain ⟨hread, hrun, hrender, hdump⟩ := dump_lossless
  have hindent : Machine.usual.IndentFits (-1) := ⟨by decide, by decide, by decide⟩
  have hindent' : Machine.usual.IndentFits 0 := ⟨by decide, by decide, by decide⟩
  have hk := hrun .usual [] ⟨[("É\x1b𝄞".toList, [.single (.delay (-5)), .pages [] [[]]])]⟩ (-1)
    hindent (by decide)
  have hl := hrun .usual [] (Catalog.empty.insert "É\x1b𝄞".toList
    [.single (.delay (-5)), .pages [] [[]]]) 0 hindent' (by decide)
  exact ⟨_, _, _, rfl, rfl, hk, hl, (hread _ _).2, hdump _ _ _ _ _ _ _ _ _ hk hl,
    congrArg Catalog.names (hrender _ _ (-1) 0 rfl)⟩

end App

end Cutscene
