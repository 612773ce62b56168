/-!
# Paths

A path is its text. Only `/` separates; a path that starts with one has a root. Everything else is
read off the text without looking at any file.
-/

namespace Bundler

/-- A path as it was written. -/
structure Path where
  text : String
deriving DecidableEq, Repr, Inhabited

namespace Path

/-- One step of a path. -/
inductive Component where
  /-- The root. -/
  | root
  /-- A `.` at the very start of a path without a root. -/
  | here
  /-- A `..`. -/
  | up
  | name (text : String)
deriving DecidableEq, Repr

/-! ## Reading -/

/-- The pieces of a text between its slashes. -/
def pieces : List Char → List (List Char)
  | [] => [[]]
  | c :: cs =>
    if c = '/' then [] :: pieces cs
    else
      match pieces cs with
      | [] => [[c]]
      | p :: ps => (c :: p) :: ps

def isAbsolute (p : Path) : Bool := p.text.toList.head? == some '/'

/-- The pieces after the root. -/
def body (p : Path) : List (List Char) :=
  match p.text.toList with
  | '/' :: cs => pieces cs
  | cs => pieces cs

/-- A piece that stands for no step: nothing between two slashes, or a `.`. -/
def idle (piece : List Char) : Bool := piece == [] || piece == ['.']

/-- A path without a root that starts with a `.` piece has that piece as its first step. -/
def startsHere (p : Path) : Bool := !p.isAbsolute && p.body.head? == some ['.']

def Component.ofPiece (piece : List Char) : Component :=
  if piece = ['.', '.'] then .up else .name (String.ofList piece)

/-- The steps of a path. Two paths with the same steps lead to the same place. -/
def components (p : Path) : List Component :=
  let steps := (p.body.filter fun piece => !idle piece).map .ofPiece
  if p.isAbsolute then .root :: steps
  else if p.startsHere then .here :: steps
  else steps

/-- Two spellings of one path. -/
def same (p q : Path) : Bool := p.components == q.components

/-! ## Writing -/

def Component.text : Component → String
  | .root => "/"
  | .here => "."
  | .up => ".."
  | .name s => s

/-- `q` taken from `p`: an absolute `q` stands for itself. -/
def join (p q : Path) : Path :=
  if q.isAbsolute then q
  else if p.text.isEmpty || p.text.toList.getLast? == some '/' then ⟨p.text ++ q.text⟩
  else ⟨p.text ++ "/" ++ q.text⟩

/-- A child of a path. -/
def child (p : Path) (name : String) : Path := p.join ⟨name⟩

def ofComponents (steps : List Component) : Path :=
  steps.foldl (fun p step => p.child step.text) ⟨""⟩

/-! ## Cutting off steps -/

/-- Pieces without the idle ones at the end. -/
def trimEnd (body : List (List Char)) : List (List Char) :=
  (body.reverse.dropWhile idle).reverse

def ofBody (absolute : Bool) (body : List (List Char)) : Path :=
  ⟨(if absolute then "/" else "") ++ String.ofList (List.intercalate ['/'] body)⟩

/-- The path without its last step, spelled as it was; the root and the empty path have none. -/
def parent? (p : Path) : Option Path :=
  if p.startsHere then
    match trimEnd p.body.tail with
    | [] => some ⟨""⟩
    | steps => some (ofBody false (['.'] :: trimEnd steps.dropLast))
  else
    match trimEnd p.body with
    | [] => none
    | steps => some (ofBody p.isAbsolute (trimEnd steps.dropLast))

/-- A path with its ancestors, as far as so many steps. -/
def ancestorsWithin : Nat → Path → List Path
  | 0, _ => []
  | n + 1, p =>
    match p.parent? with
    | some q => p :: ancestorsWithin n q
    | none => [p]

/-- A path with all its ancestors, the nearest first. -/
def ancestors (p : Path) : List Path := ancestorsWithin (p.text.length + 1) p

/-- What is left of the pieces after so many steps. -/
def dropSteps : Nat → List (List Char) → List (List Char)
  | _, [] => []
  | n, piece :: rest =>
    if idle piece then dropSteps n rest
    else
      match n with
      | 0 => piece :: rest
      | n + 1 => dropSteps n rest

/-- What follows `base` in `p`, spelled as it was, when `p` starts with the steps of `base`. -/
def strip? (base p : Path) : Option Path :=
  if base.components.isPrefixOf p.components then
    if base.components.isEmpty then
      if p.startsHere then some (ofBody false (['.'] :: trimEnd p.body.tail))
      else some (ofBody p.isAbsolute (trimEnd p.body))
    else
      let used := base.components.length - (if p.isAbsolute || p.startsHere then 1 else 0)
      some (ofBody false (trimEnd (dropSteps used p.body)))
  else none

/-! ## The last step -/

/-- The name that a path ends in. -/
def fileName? (p : Path) : Option String :=
  match p.components.getLast? with
  | some (.name s) => some s
  | _ => none

/-- A name cut at its last dot. A name without a dot, or with its only dot in front, is all stem. -/
def splitName (name : List Char) : List Char × Option (List Char) :=
  let tail := name.reverse.takeWhile (· != '.')
  let stem := (name.reverse.drop (tail.length + 1)).reverse
  if tail.length == name.length || stem.isEmpty then (name, none) else (stem, some tail.reverse)

/-- What follows the last dot of the file name. -/
def extension? (p : Path) : Option String := do
  let name ← p.fileName?
  let ext ← (splitName name.toList).2
  return String.ofList ext

/-! ## Normal form -/

/-- One step taken from where the steps so far, the last one first, lead. -/
def walk (steps : List Component) : Component → List Component
  | .here => steps
  | .up =>
    match steps with
    | .name _ :: rest => rest
    | .root :: _ => steps
    | _ => .up :: steps
  | step => step :: steps

/-- The path with each `.` dropped and each `..` taken where that is possible. -/
def normal (p : Path) : Path :=
  ofComponents ((p.components.foldl walk []).reverse)

/-! ## From one path to another -/

/-- Both lists of steps after their longest common beginning. -/
def diverge : List Component → List Component → List Component × List Component
  | a :: as, b :: bs => if a = b then diverge as bs else (a :: as, b :: bs)
  | as, bs => (as, bs)

/-- The way from `base` to `p`. -/
def relative (p base : Path) : Path :=
  match strip? base p with
  | some rest => rest
  | none =>
    let (ahead, back) := diverge p.components base.components
    ofComponents (back.map (fun _ => .up) ++ ahead)

/-- The text with every backslash turned into a slash. -/
def unix (p : Path) : String :=
  String.ofList (p.text.toList.map fun c => if c = '\\' then '/' else c)

/-! ## Module ids -/

/-- A text without any `./` in front. -/
def trimHere : List Char → List Char
  | '.' :: '/' :: rest => trimHere rest
  | text => text

/-- The id of the file `p` in a project: the way from the root, with slashes only and a `./` in
front. -/
@[irreducible] def idFrom (root p : Path) : String :=
  let way := (p.relative root).unix
  if "../".toList.isPrefixOf way.toList then "./" ++ way
  else "./" ++ String.ofList (trimHere way.toList)

end Path
end Bundler
