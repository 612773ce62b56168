import Bundler.Error
import Bundler.Options.Basic
import Bundler.Regex.Basic
import Bundler.Text.Shown

/-!
# Loaders

A loader turns the text of a file into another one before it is read as a script. Rules say which
files go through which loaders, by the path of the file.
-/

namespace Bundler

/-- A loader. It fails with its causes, the outermost first. -/
structure Loader where
  name : String
  transform : String → Path → Except (List String) String

namespace Loader

/-- A loader that replaces every match of a pattern. -/
def ofSubstitution (s : Substitution) : Except Error Loader :=
  match Regex.parse s.pattern with
  | .ok regex =>
    .ok { name := s.name, transform := fun source _ => .ok (regex.replaceAll source s.replacement) }
  | .error problem => .error (.config s!"Regex error: {problem}")

/-- The text that a loader makes of the file at a path. -/
def load (loader : Loader) (path : Path) (source : String) : Except Error String :=
  match loader.transform source path with
  | .ok text => .ok text
  | .error causes => .error (.transform loader.name path causes)

end Loader

/-- The loaders that rules can name, in the order in which they came. -/
structure Registry where
  loaders : List Loader := []

namespace Registry

/-- The loaders with one put in place of that of the same name, or at the end. -/
def insert (loader : Loader) : List Loader → List Loader
  | [] => [loader]
  | other :: rest => if other.name = loader.name then loader :: rest else other :: insert loader rest

def register (registry : Registry) (loader : Loader) : Registry := ⟨insert loader registry.loaders⟩

def find? (registry : Registry) (name : String) : Option Loader :=
  registry.loaders.find? (·.name == name)

def names (registry : Registry) : List String := registry.loaders.map (·.name)

/-- The loaders of the options. -/
def ofSubstitutions (loaders : List Substitution) : Except Error Registry :=
  loaders.foldlM (fun registry s => registry.register <$> Loader.ofSubstitution s) {}

/-- The registry as it is shown for inspection. -/
def shown (registry : Registry) : String :=
  "LoaderRegistry \x7b loaders: " ++ Text.shownList registry.names ++ " \x7d"

end Registry

/-- A rule whose test was read and whose loaders were found. -/
structure Pass where
  test : Regex
  loaders : List Loader

/-- The rules of a build. -/
structure Pipeline where
  passes : List Pass := []

namespace Pipeline

def findLoader (registry : Registry) (name : String) : Except Error Loader :=
  match registry.find? name with
  | some loader => .ok loader
  | none =>
    let known := ", ".intercalate registry.names
    .error (.config s!"Unknown loader '{name}' (registered: {known})")

def passOf (registry : Registry) (rule : Rule) : Except Error Pass := do
  match Regex.parse rule.test with
  | .ok test => return { test := test, loaders := ← rule.loaders.mapM (findLoader registry) }
  | .error problem => throw (.config s!"Invalid rule test '{rule.test}': {problem}")

/-- The rules read; the first that is wrong is reported. -/
def ofRules (registry : Registry) (rules : List Rule) : Except Error Pipeline :=
  Pipeline.mk <$> rules.mapM (passOf registry)

/-- The loaders of every rule that a path matches, in the order of the rules. -/
def loadersFor (pipeline : Pipeline) (path : Path) : List Loader :=
  (pipeline.passes.filter fun pass => pass.test.isMatch path.unix).flatMap (·.loaders)

/-- The text of the file at a path after its loaders; the first that fails is reported. -/
def apply (pipeline : Pipeline) (path : Path) (source : String) : Except Error String :=
  (pipeline.loadersFor path).foldlM (fun text loader => loader.load path text) source

end Pipeline
end Bundler
