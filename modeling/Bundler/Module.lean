import Bundler.Error
import Bundler.Json.Basic

/-!
# Modules
-/

namespace Bundler

/-- A file of the program. -/
structure Module where
  id : String
  path : Path
  /-- The text after the loaders. -/
  transformed : String
  /-- The text in a bundle. -/
  emitted : String
  /-- The ids of the modules that it asks for, each once, in the order of its calls. -/
  dependencies : List String := []
  /-- The entries that it was built for, in the order in which they came. -/
  owners : List String := []
deriving DecidableEq, Repr, Inhabited

namespace Module

def ownedBy (m : Module) (entry : String) : Bool := m.owners.contains entry

def addOwner (m : Module) (entry : String) : Module := { m with owners := m.owners ++ [entry] }

end Module

/-- Modules under their ids, in the order in which they were built. -/
abbrev Table := List (String × Module)

namespace Table

def modules (table : Table) : List Module := table.map (·.2)

def find? (table : Table) (id : String) : Option Module := table.lookup id

/-- The module of an id in the table. -/
def find (table : Table) (id : String) : Except Error { m : Module // m ∈ table.modules } :=
  match h : table.find? id with
  | some m => .ok ⟨m, mem_of_find? h⟩
  | none => .error (.unknownModule id)
where
  mem_of_find? {m : Module} (h : table.lookup id = some m) : m ∈ table.modules := by
    induction table with
    | nil => simp at h
    | cons row rest ih =>
      obtain ⟨key, value⟩ := row
      simp only [List.lookup_cons] at h
      split at h
      · simp_all [modules]
      · exact List.mem_cons_of_mem _ (ih h)

end Table
end Bundler
