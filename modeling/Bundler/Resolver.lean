import Bundler.Error
import Bundler.Json.Reader

/-!
# Finding the file of a specifier

A specifier that starts with a dot or a slash names a place. Any other is looked for in the
`node_modules` folders of the folder it is seen from and of those above.
-/

namespace Bundler

/-- The endings that a file may be named without. -/
structure Resolver where
  extensions : List String := [".js", ".json"]
deriving DecidableEq, Repr

namespace Resolver

/-- A path as it stands, then with each ending. -/
def spellings (r : Resolver) (p : Path) : List Path :=
  p :: r.extensions.map fun ending => ⟨p.text ++ ending⟩

/-- The first spelling of a path that is a file. -/
def probe (r : Resolver) (files : Files) (p : Path) : Option Path :=
  (r.spellings p).find? files.isFile

/-- The file at a path, or the index of the folder there. -/
def place (r : Resolver) (files : Files) (p : Path) : Option Path :=
  r.probe files p <|> if files.isFolder p then r.probe files (p.child "index") else none

/-- The main file that a manifest names, if it can be read and names one. -/
def manifestMain? (source : String) : Option String :=
  let manifest := Json.Reader.record "manifest"
    [{ name := "main", read := do return Function.const _ (← .option (.text "a string")) }] none
  (Json.Reader.run manifest source).toOption.join

/-- What a package names as its main file. -/
def packageMain (files : Files) (folder : Path) : Option String :=
  (files.read (folder.child "package.json")).toOption.bind manifestMain?

/-- The file that stands for a package. -/
def package (r : Resolver) (files : Files) (folder : Path) : Option Path :=
  (do r.place files (folder.child (← packageMain files folder)).normal) <|>
    r.probe files (folder.child "index")

/-- A module looked for in the `node_modules` of one folder. -/
def inModules (r : Resolver) (files : Files) (specifier : String) (folder : Path) : Option Path :=
  let modules := folder.child "node_modules"
  if files.isFolder modules then
    let target := (modules.child specifier).normal
    r.probe files target <|> if files.isFolder target then r.package files target else none
  else none

/-- A specifier that names no place. -/
def isBare (specifier : String) : Bool :=
  !(specifier.toList.head? == some '.' || Path.isAbsolute ⟨specifier⟩)

/-- The file of a specifier seen from a folder, if there is one. -/
def resolve? (r : Resolver) (files : Files) (base : Path) (specifier : String) : Option Path :=
  if isBare specifier then base.ancestors.findSome? (r.inModules files specifier)
  else r.place files (base.child specifier).normal

/-- The file of a specifier seen from a folder. -/
def resolve (r : Resolver) (files : Files) (base : Path) (specifier : String) : Except Error Path :=
  match r.resolve? files base specifier with
  | some path => .ok path
  | none => .error (.resolution specifier base)

end Resolver
end Bundler
