import Cutscene.Action.Basic

/-!
Named scripts, in the order in which their names first came up.

A name stands for one script. Defining it once more puts the new script in the old place.
-/

namespace Cutscene

/-- The text comes before another one, by the numbers of their characters. -/
def Text.isBefore (s t : Text) : Bool := s.lex t fun a b => a.toNat < b.toNat

structure Catalog where
  entries : List (Text × Script)
deriving DecidableEq

namespace Catalog

def empty : Catalog := ⟨[]⟩

def size (k : Catalog) : Nat := k.entries.length

def names (k : Catalog) : List Text := k.entries.map Prod.fst

def sortedNames (k : Catalog) : List Text := k.names.mergeSort fun s t => !Text.isBefore t s

def find? (k : Catalog) (name : Text) : Option Script := k.entries.lookup name

/-- The catalog in which the name stands for the script. -/
def insert (k : Catalog) (name : Text) (s : Script) : Catalog :=
  if name ∈ k.names then ⟨k.entries.map fun e => if e.1 = name then (name, s) else e⟩
  else ⟨k.entries ++ [(name, s)]⟩

theorem insert_of_mem {k : Catalog} {name : Text} (h : name ∈ k.names) (s : Script) :
    k.insert name s = ⟨k.entries.map fun e => if e.1 = name then (name, s) else e⟩ := if_pos h

theorem insert_of_not_mem {k : Catalog} {name : Text} (h : name ∉ k.names) (s : Script) :
    k.insert name s = ⟨k.entries ++ [(name, s)]⟩ := if_neg h

theorem names_insert (k : Catalog) (name : Text) (s : Script) :
    (k.insert name s).names = if name ∈ k.names then k.names else k.names ++ [name] := by
  unfold insert
  split
  · simp only [names, List.map_map]
    refine List.map_congr_left fun e _ => ?_
    by_cases h : e.1 = name <;> simp [h]
  · simp [names]

theorem mem_names_insert (k : Catalog) (name : Text) (s : Script) :
    name ∈ (k.insert name s).names := by
  rw [names_insert]
  split
  · assumption
  · simp

end Catalog

end Cutscene
