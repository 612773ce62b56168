import Bundler.Counting
import Bundler.Module

/-!
# Chunks

A chunk holds a module and all that it asks for, directly or through others.
-/

namespace Bundler

structure Chunk where
  name : String
  entry : Module
  modules : List Module
deriving DecidableEq, Repr, Inhabited

namespace Chunk

def ids (chunk : Chunk) : List String := chunk.modules.map (·.id)

def contains (chunk : Chunk) (id : String) : Bool := chunk.modules.any (·.id == id)

/-- A module of a table. -/
abbrev Known (table : Table) := { m : Module // m ∈ table.modules }

/-- How many modules of a table are not reached. -/
def unreached (table : Table) (reached : List String) : Nat :=
  table.modules.countP fun m => !reached.contains m.id

theorem unreached_lt {table : Table} {reached : List String} (m : Known table)
    (new : ¬ reached.contains m.1.id) :
    unreached table (reached ++ [m.1.id]) < unreached table reached := by
  refine countP_lt_countP (fun x _ => ?_) m.2 ?_ ?_ <;> simp_all

/-- The ids that can be reached from the modules of a stack, after those that were. Of the modules
that one asks for, the last is followed first. -/
def reach (table : Table) (reached : List String) : List (Known table) → Except Error (List String)
  | [] => .ok reached
  | m :: stack =>
    if _new : reached.contains m.1.id then reach table reached stack
    else
      match m.1.dependencies.mapM table.find with
      | .error e => .error e
      | .ok next =>
        let reached := reached ++ [m.1.id]
        reach table reached ((next.filter fun d => !reached.contains d.1.id).reverse ++ stack)
termination_by stack => (unreached table reached, stack.length)
decreasing_by
  · exact Prod.Lex.right _ (by simp)
  · exact Prod.Lex.left _ _ (unreached_lt m _new)

/-- The ids that can be reached from a module, in the order in which they are found. -/
def closure (table : Table) (m : Known table) : Except Error (List String) := reach table [] [m]

/-- The chunk of an entry. Its modules keep the order of the table. -/
def assemble (table : Table) (name id : String) : Except Error Chunk := do
  let entry ← table.find id
  let reached ← closure table entry
  return { name := name, entry := entry.1, modules := table.modules.filter (reached.contains ·.id) }

end Chunk
end Bundler
