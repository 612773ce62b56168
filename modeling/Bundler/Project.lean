import Bundler.Extract
import Bundler.Loader
import Bundler.Module
import Bundler.Text.Blank

/-!
# One file of a project

A file is read, goes through its loaders, and is searched for what it asks for.
-/

namespace Bundler

/-- What the files of a program are read with. -/
structure Project where
  root : Path
  resolver : Resolver := {}
  pipeline : Pipeline := {}

/-- What was found in a file. -/
structure Analysis where
  transformed : String
  emitted : String
  dependencies : List Dependency
deriving DecidableEq, Repr

namespace Project

/-- A file whose text is data. -/
def isJson (path : Path) : Bool :=
  path.extension?.any fun ending => ending.toList.map Char.toLower = ['j', 's', 'o', 'n']

/-- The script that gives the value of a JSON text. -/
def wrapJson (path : Path) (source : String) : Except Error String :=
  let text := String.ofList (Text.trim source.toList)
  match Json.parse text with
  | .ok _ => .ok ("module.exports = JSON.parse(" ++ Literal.quote text ++ ");\n")
  | .error problem => .error (.parse path ("invalid JSON: " ++ problem))

/-- The text of a file after its loaders. -/
def load (p : Project) (files : Files) (path : Path) : Except Error String :=
  match files.read path with
  | .ok source => p.pipeline.apply path source
  | .error fault => .error (.io path fault)

/-- What is found in a text that was loaded. -/
def examine (p : Project) (files : Files) (path : Path) (text : String) : Except Error Analysis := do
  let transformed ← if isJson path then wrapJson path text else .ok text
  let found ← extract files p.resolver p.root path transformed
  return { transformed := transformed, emitted := found.text, dependencies := found.dependencies }

/-- What is found in the file at a path. -/
def analyse (p : Project) (files : Files) (path : Path) : Except Error Analysis := do
  p.examine files path (← p.load files path)

/-- The module of a file, built for an entry. -/
def moduleOf (p : Project) (path : Path) (entry : String) (a : Analysis) : Module :=
  { id := Path.idFrom p.root path
    path := path
    transformed := a.transformed
    emitted := a.emitted
    dependencies := (a.dependencies.map (·.id)).eraseDups
    owners := [entry] }

/-- A file that could be loaded has a path that is short enough. -/
theorem length_le_of_load {p : Project} {files : Files} {path : Path} {text : String}
    (h : p.load files path = .ok text) : path.text.length ≤ Files.maxPath := by
  unfold load at h
  split at h
  · next source read => exact Files.length_le_of_read read
  · simp at h

end Project

end Bundler
