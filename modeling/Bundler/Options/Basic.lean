import Bundler.Path
import Bundler.Json.Basic

/-!
# Options of a build
-/

namespace Bundler

/-- A rule: files whose path matches the test go through its loaders. -/
structure Rule where
  test : String
  loader : Option String := none
  uses : List String := []
deriving DecidableEq, Repr, Inhabited

/-- The loaders that a rule names; a single one goes before a list. -/
def Rule.loaders (rule : Rule) : List String :=
  match rule.loader with
  | some name => [name]
  | none => rule.uses

/-- A loader that replaces every match of a pattern. -/
structure Substitution where
  name : String
  pattern : String
  replacement : String := ""
deriving DecidableEq, Repr, Inhabited

/-- Where a program starts: in one file, or in one for each name. -/
inductive Entry where
  | single (path : String)
  | named (paths : List (String × String))
deriving DecidableEq, Repr, Inhabited

namespace Entry

/-- The name of an entry that has none. -/
def defaultName : String := "main"

/-- The entries with their files, taken from the root. -/
def files (root : Path) : Entry → List (String × Path)
  | single path => [(defaultName, (root.child path).normal)]
  | named paths => paths.map fun (name, path) => (name, (root.child path).normal)

end Entry

/-- Where the bundles go. -/
structure Output where
  folder : Path := ⟨"dist"⟩
  filename : String := "[name].js"
deriving DecidableEq, Repr, Inhabited

namespace Output

/-- A template with a name put in for every `[name]`. -/
def fill (name : List Char) : List Char → List Char
  | '[' :: 'n' :: 'a' :: 'm' :: 'e' :: ']' :: rest => name ++ fill name rest
  | c :: rest => c :: fill name rest
  | [] => []

/-- The file that the bundle of an entry goes to. -/
def filenameFor (output : Output) (name : String) : String :=
  String.ofList (fill name.toList output.filename.toList)

end Output

structure Options where
  /-- The root of the project. -/
  context : Option Path := none
  entry : Entry := .named []
  rules : List Rule := []
  extensions : List String := [".js", ".json"]
  output : Output := {}
  loaders : List Substitution := []
deriving DecidableEq, Repr, Inhabited

namespace Options

/-- The root of the project, seen from the working folder. -/
def root (options : Options) (current : Path) : Path :=
  match options.context with
  | some context => (current.join context).normal
  | none => current.normal

/-- The folder that the bundles go to. -/
def outputFolder (options : Options) (current : Path) : Path :=
  ((options.root current).join options.output.folder).normal

end Options
end Bundler
