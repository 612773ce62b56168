import Bundler.Files

/-!
# Errors

What can go wrong in a build, each cause with its text in one line and its text for a terminal.
-/

namespace Bundler

inductive Error where
  | resolution (specifier : String) (folder : Path)
  | parse (path : Path) (message : String)
  /-- A loader failed; the causes stand outermost first. -/
  | transform (loader : String) (path : Path) (causes : List String)
  | dynamicRequire (path : Path) (expression : String)
  | config (message : String)
  | unknownModule (id : String)
  | io (path : Path) (fault : Fault)
deriving DecidableEq, Repr

namespace Error

/-- The text of a build error in one line. -/
def message : Error → String
  | resolution specifier folder => s!"Can't resolve '{specifier}' in '{folder.text}'"
  | parse path message => s!"Parse error in {path.text}: {message}"
  | transform loader path causes =>
    let cause := causes.headD ""
    s!"Loader '{loader}' failed on {path.text}: {cause}"
  | dynamicRequire path expression =>
    s!"Dynamic require in {path.text}: `{expression}` is not a string literal"
  | config message => s!"Configuration error: {message}"
  | unknownModule id => s!"Module {id} is not part of the compilation"
  | io path fault => s!"IO error on {path.text}: {fault.message}"

/-- The text of a build error for a terminal. -/
def report : Error → String
  | resolution specifier folder =>
    s!"❌ Resolution Error: Can't resolve '{specifier}'\n📁 Searched in: {folder.text}"
  | parse path message => s!"❌ Parse Error: {message}\n📁 File: {path.text}"
  | transform loader path causes =>
    let chain := ": ".intercalate causes
    s!"❌ Transform Error: loader '{loader}' failed\n📁 File: {path.text}\n📝 Cause: {chain}"
  | dynamicRequire path expression =>
    "❌ Dynamic Require: only string literal specifiers are supported\n" ++
      s!"📁 File: {path.text}\n📝 Code: require({expression})"
  | other => s!"❌ {other.message}"

/-- The text of the error below this one. -/
def cause? : Error → Option String
  | transform _ _ causes => some (causes.headD "")
  | io _ fault => some fault.message
  | _ => none

end Error
end Bundler
