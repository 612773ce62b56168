import Bundler.Text.Cut

/-!
# Patches

A patch puts a text in place of the bytes between two offsets of a source.
-/

namespace Bundler

structure Patch where
  start : Nat
  stop : Nat
  text : String
deriving DecidableEq, Repr

namespace Patch

/-- The source from a cursor on, with patches put in that are sorted by where they start. There is
no result when a patch starts before the cursor, inside a character or past the end. -/
def spliceFrom (source : List Char) (cursor : Nat) : List Patch → Option (List Char)
  | [] => Text.drop? cursor source
  | patch :: rest => do
    let kept ← Text.slice? cursor patch.start source
    let after ← spliceFrom source patch.stop rest
    return kept ++ patch.text.toList ++ after

/-- A patch put before the first one of a row that does not start before it. -/
def insert (patch : Patch) : List Patch → List Patch
  | [] => [patch]
  | other :: rest =>
    if patch.start ≤ other.start then patch :: other :: rest else other :: insert patch rest

/-- The patches sorted by where they start; those that start together keep their order. -/
def sort (patches : List Patch) : List Patch := patches.foldr insert []

/-- The source with every patch put in. -/
def splice? (source : String) (patches : List Patch) : Option String :=
  (spliceFrom source.toList 0 (sort patches)).map String.ofList

end Patch
end Bundler
