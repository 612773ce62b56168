import Bundler.Bundle
import Bundler.Graph.Walk
import Bundler.Options.Basic
import Bundler.Trace

/-!
# Compilations

A compilation builds every entry and writes its script, without putting anything into files.
-/

namespace Bundler

/-- All that a compilation gives. -/
structure Compilation where
  /-- The id of each entry's module, in the order of the entries. -/
  entries : List (String × String) := []
  modules : Table := []
  chunks : List Chunk := []
  /-- The script for each file that is written. -/
  assets : List (String × String) := []
deriving Inhabited

namespace Compilation

/-! ## Questions -/

def module? (c : Compilation) (id : String) : Option Module := c.modules.find? id

def moduleAt? (c : Compilation) (path : Path) : Option Module :=
  c.modules.modules.find? (·.path.same path)

def entryModules (c : Compilation) : List Module := c.entries.filterMap fun (_, id) => c.module? id

def chunk? (c : Compilation) (name : String) : Option Chunk := c.chunks.find? (·.name == name)

def asset? (c : Compilation) (file : String) : Option String := c.assets.lookup file

/-! ## Compiling -/

/-- Work between two events that frame it. -/
def timed (work : String) (t : Trace Event α) : Trace Event α :=
  ⟨.started work :: t.events ++ [.finished work], t.result⟩

def assemble (table : Table) (name id : String) : Trace Event Chunk := do
  let chunk ← .ofExcept (Chunk.assemble table name id)
  .tell [.assembled name chunk.modules.length]
  return chunk

/-- The scripts of chunks after those that are there. No two go to one file. -/
def renderAfter (output : Output) (assets : List (String × String)) :
    List Chunk → Trace Event (List (String × String))
  | [] => return assets
  | chunk :: rest => do
    let file := output.filenameFor chunk.name
    if (assets.lookup file).isSome then
      .fail (.config (s!"Multiple chunks emit assets to the same filename '{file}'; " ++
        "add [name] to output.filename"))
    else
      let script ← timed s!"Generating chunk {chunk.name}" (return Bundle.script chunk)
      renderAfter output (assets ++ [(file, script)]) rest

def render (output : Output) (chunks : List Chunk) : Trace Event (List (String × String)) :=
  renderAfter output [] chunks

/-- Builds every entry and writes its script. -/
def compile (options : Options) (loaders : Registry) (files : Files) (current : Path) :
    Trace Event Compilation := timed "Compilation" do
  let root := options.root current
  let entries := options.entry.files root
  if entries.isEmpty then .fail (.config "No entry configured")
  else
    let pipeline ← .ofExcept (Pipeline.ofRules loaders options.rules)
    let project : Project :=
      { root := root, resolver := ⟨options.extensions⟩, pipeline := pipeline }
    let built := Graph.buildEntries project files {} entries
    let ids ← Trace.mk built.events built.result
    let table := built.graph.table
    let chunks ← ids.mapM fun (name, id) => assemble table name id
    let assets ← render options.output chunks
    return { entries := ids, modules := table, chunks := chunks, assets := assets }

/-! ## A summary -/

def moduleJson (m : Module) : Json :=
  .object [
    ("id", .text m.id),
    ("resolvedPath", .text m.path.text),
    ("dependencyIds", .texts m.dependencies),
    ("owningEntries", .texts m.owners)]

def chunkJson (chunk : Chunk) : Json :=
  .object [
    ("name", .text chunk.name),
    ("entryModule", .text chunk.entry.id),
    ("modules", .texts chunk.ids)]

def toJson (c : Compilation) : Json :=
  .object [
    ("entries", .object (c.entries.map fun (name, id) => (name, .text id))),
    ("modules", .list (c.modules.modules.map moduleJson)),
    ("chunks", .list (c.chunks.map chunkJson)),
    ("assets", .object (c.assets.map fun (file, script) => (file, .ofNat (Text.size script.toList)))),
    ("files", .texts (c.assets.map (·.1)))]

end Compilation
end Bundler
