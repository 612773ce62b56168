import Bundler.Path
import Bundler.Script.Tree

/-!
# What a script is read as

The end of its name tells. A name that ends in nothing known is read as a plain script.
-/

namespace Bundler.Script.Dialect

/-- What stands before the last dot of a name, and what stands between that and the dot before. -/
def inner? (name : List Char) : Option (List Char × List Char) :=
  match Path.splitName name with
  | (stem, some ext) => some (stem, ext)
  | (_, none) => none

/-- `x.d.ts` only declares, and so does `x.d.y.ts`, which tells the types of a file `x.y`. -/
def onlyDeclares (name : List Char) : Bool :=
  match inner? name with
  | none => false
  | some (stem, _) =>
    match inner? stem with
    | none => false
    | some (stem, ext) => ext == ['d'] || (inner? stem).any fun (_, ext) => ext == ['d']

/-- How the script at a path is read. -/
def ofPath (path : Path) : Dialect :=
  let declares := path.fileName?.any fun name => onlyDeclares name.toList
  match path.extension? with
  | some "jsx" => { elements := true }
  | some "ts" => { types := true, declares := declares }
  | some "mts" => { types := true, declares := declares }
  | some "cts" => { types := true, declares := declares }
  | some "tsx" => { types := true, elements := true }
  | _ => {}

end Bundler.Script.Dialect
