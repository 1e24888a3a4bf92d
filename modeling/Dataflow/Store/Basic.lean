import Dataflow.Definition.Basic
import Dataflow.Failure

/-!
# Stores

A store keeps a definition for each dataflow of each workspace.  The services ask for no more than
the two operations of `DefinitionStore`, so they neither know nor care whether they work on the
files of `Dataflow.Store.Disk` or on the `MemoryStore` below, a list of definitions that also counts
the writes.  There is no version token, so of two writers the last one wins.
-/

set_option autoImplicit false

namespace Dataflow

/-- What keeps definitions. -/
class DefinitionStore (σ : Type) where
  /-- The definition of a dataflow. -/
  fetch : σ → (workspace dataflow : Text) → Except Failure Definition
  /-- The store with the definition of a dataflow written. -/
  persist : σ → (workspace dataflow : Text) → Definition → Except Failure σ

/-! ## A store in memory -/

/-- A store in memory. -/
structure MemoryStore where
  /-- The definitions by workspace and dataflow. -/
  definitions : List ((Text × Text) × Definition)
  /-- How often a definition was persisted. -/
  persisted : Nat

namespace MemoryStore

/-- A store without definitions. -/
def empty : MemoryStore := ⟨[], 0⟩

/-- The definition of a dataflow, if there is one. -/
def definition? (s : MemoryStore) (workspace dataflow : Text) : Option Definition :=
  s.definitions.lookup (workspace, dataflow)

/-- The definitions with one replaced or added. -/
def putIn (key : Text × Text) (d : Definition) :
    List ((Text × Text) × Definition) → List ((Text × Text) × Definition)
  | [] => [(key, d)]
  | (k, old) :: rest => if k = key then (k, d) :: rest else (k, old) :: putIn key d rest

/-- The store with a definition, without counting it. -/
def put (s : MemoryStore) (workspace dataflow : Text) (d : Definition) : MemoryStore :=
  { s with definitions := putIn (workspace, dataflow) d s.definitions }

theorem definition?_put_self (s : MemoryStore) (workspace dataflow : Text) (d : Definition) :
    (s.put workspace dataflow d).definition? workspace dataflow = some d := by
  obtain ⟨definitions, persisted⟩ := s
  simp only [put, definition?]
  induction definitions with
  | nil => simp [putIn]
  | cons x rest ih =>
    obtain ⟨k, old⟩ := x
    by_cases h : k = (workspace, dataflow)
    · simp [putIn, h]
    · have h' : ((workspace, dataflow) == k) = false := by simpa using Ne.symm h
      simp [putIn, h, List.lookup_cons, h', ih]

/-- No other definition changes. -/
theorem definition?_put_other (s : MemoryStore) {workspace dataflow workspace' dataflow' : Text}
    (h : (workspace', dataflow') ≠ (workspace, dataflow)) (d : Definition) :
    (s.put workspace dataflow d).definition? workspace' dataflow' =
      s.definition? workspace' dataflow' := by
  obtain ⟨definitions, persisted⟩ := s
  simp only [put, definition?]
  have hkey : ((workspace', dataflow') == (workspace, dataflow)) = false := by simpa using h
  induction definitions with
  | nil => rw [putIn, List.lookup_cons, hkey]
  | cons x rest ih =>
    obtain ⟨k, old⟩ := x
    rw [putIn]
    split
    · rename_i hk
      subst hk
      rw [List.lookup_cons, List.lookup_cons, hkey]
    · rw [List.lookup_cons, List.lookup_cons, ih]

instance : DefinitionStore MemoryStore where
  fetch s workspace dataflow :=
    match s.definition? workspace dataflow with
    | some d => .ok d
    | none => .error (.missingDefinition workspace dataflow)
  persist s workspace dataflow d :=
    let s := s.put workspace dataflow d
    .ok { s with persisted := s.persisted + 1 }

end MemoryStore

end Dataflow
