import Bundler.Literal
import Bundler.Patch
import Bundler.Requires
import Bundler.Resolver

/-!
# The text of a module in a bundle

In a bundle a module asks for others by their ids, through the loader of the bundle.
-/

namespace Bundler

/-- A module that another one asks for. -/
structure Dependency where
  specifier : String
  id : String
  path : Path
deriving DecidableEq, Repr

/-- A module's text for the bundle, and what it asks for in the order of its calls. -/
structure Extraction where
  text : String
  dependencies : List Dependency
deriving DecidableEq, Repr

/-- What the loader of a bundle is called. -/
def requireName : String := "__rpack_require__"

/-- A first line for the shell becomes a comment. -/
def hashbangPatch (span : Span) : Patch := ⟨span.start, span.start + 2, "//"⟩

/-- A call goes to the loader of the bundle, with an id. -/
def callPatches (call : Require) (id : String) : List Patch :=
  [⟨call.callee.start, call.callee.stop, requireName⟩,
   ⟨call.argument.start, call.argument.stop, Literal.quote id⟩]

/-- What a call in the file at a path asks for. -/
def dependency (files : Files) (r : Resolver) (root path : Path) (call : Require) :
    Except Error Dependency := do
  let found ← r.resolve files (path.parent?.getD root) call.specifier
  return { specifier := call.specifier, id := Path.idFrom root found, path := found }

/-- The patches of a script whose calls ask for these modules. -/
def Scan.patches (found : Scan) (dependencies : List Dependency) : List Patch :=
  (found.hashbang.map hashbangPatch).toList ++
    (found.requires.zip dependencies).flatMap fun (call, d) => callPatches call d.id

/-- The dependencies and the text of a script with these calls. There is none where the calls do not
stand apart from each other. -/
def Scan.extraction (found : Scan) (files : Files) (r : Resolver) (root path : Path) (source : String) :
    Except Error Extraction := do
  let dependencies ← found.requires.mapM (dependency files r root path)
  match Patch.splice? source (found.patches dependencies) with
  | some text => return { text := text, dependencies := dependencies }
  | none => throw (.parse path "Unexpected token")

/-- The dependencies and the text of the script at a path. -/
def extract (files : Files) (r : Resolver) (root path : Path) (source : String) :
    Except Error Extraction := do
  (← scan path source).extraction files r root path source

end Bundler
