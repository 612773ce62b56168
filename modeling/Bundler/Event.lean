import Bundler.Path

/-!
# Events of a build
-/

namespace Bundler

/-- What happens while modules are built and bundles are written. -/
inductive Event where
  /-- A module is looked at. -/
  | visited (path : Path)
  /-- Its file is read. -/
  | opened (path : Path)
  /-- So many loaders changed its text. -/
  | loaded (path : Path) (count : Nat)
  /-- It was added, with so many dependencies. -/
  | built (id entry : String) (count : Nat)
  /-- It was there and got another owner. -/
  | reused (id entry : String)
  /-- The chunk of an entry was put together from so many modules. -/
  | assembled (name : String) (count : Nat)
  /-- A part of the work starts. -/
  | started (work : String)
  | finished (work : String)
deriving DecidableEq, Repr

end Bundler
