import Bundler.Event
import Bundler.Project

/-!
# The graph of modules

A file is read once, for the first entry that leads to it; later entries only become owners of what
is there.
-/

namespace Bundler

/-- The modules so far, and the path of each id; of two modules with one id, the later one counts
for the id. -/
structure Graph where
  modules : List Module := []
  paths : List (String × Path) := []
deriving Inhabited

namespace Graph

/-- The module of a file. -/
def find? (g : Graph) (path : Path) : Option Module := g.modules.find? (·.path.same path)

def pathOf? (g : Graph) (id : String) : Option Path := g.paths.lookup id

def add (g : Graph) (m : Module) : Graph :=
  { modules := g.modules ++ [m], paths := upsert m.id m.path g.paths }

/-- The graph with another owner for the module of a file. -/
def addOwner (g : Graph) (path : Path) (entry : String) : Graph :=
  { g with modules := g.modules.map fun m => if m.path.same path then m.addOwner entry else m }

/-- The modules under their ids. -/
def table (g : Graph) : Table := g.modules.foldl (fun table m => upsert m.id m table) []

/-! ## Looking at a file -/

/-- What the look at a file leads to: what happens, and the graph with the files to look at next. -/
structure Visit where
  events : List Event
  result : Except Error (Graph × List Path)

/-- Looks at a file for an entry. -/
def visit (p : Project) (files : Files) (entry : String) (g : Graph) (path : Path) : Visit :=
  match g.find? path with
  | some m =>
    if m.ownedBy entry then ⟨[], .ok (g, [])⟩
    else ⟨[.reused m.id entry], .ok (g.addOwner path entry, m.dependencies.filterMap g.pathOf?)⟩
  | none =>
    match p.load files path with
    | .error e => ⟨[.opened path], .error e⟩
    | .ok text =>
      let count := (p.pipeline.loadersFor path).length
      let opened := .opened path :: (if count = 0 then [] else [.loaded path count])
      match p.examine files path text with
      | .error e => ⟨opened, .error e⟩
      | .ok a =>
        let m := p.moduleOf path entry a
        ⟨opened ++ [.built m.id entry m.dependencies.length],
          .ok (g.add m, a.dependencies.map (·.path))⟩

end Graph
end Bundler
