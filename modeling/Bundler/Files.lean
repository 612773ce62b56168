import Bundler.Path
import Bundler.Text.Cut

/-!
# Files

A tree of folders and files in memory, with the rules that a path is followed by: every step but
the last must be a folder, `..` leaves the folder it stands in, and nothing is linked.
-/

namespace Bundler

/-- Why a file operation failed. -/
inductive Fault where
  | missing
  | exists
  | notFolder
  | isFolder
  | nameTooLong
  | notText
  | badName
  | other (text : String)
deriving DecidableEq, Repr

namespace Fault

def message : Fault → String
  | missing => "No such file or directory (os error 2)"
  | .exists => "File exists (os error 17)"
  | notFolder => "Not a directory (os error 20)"
  | isFolder => "Is a directory (os error 21)"
  | nameTooLong => "File name too long (os error 36)"
  | notText => "stream did not contain valid UTF-8"
  | badName => "file name contained an unexpected NUL byte"
  | other text => text

end Fault

/-- A file with its bytes, or a folder with its named children. -/
inductive Node where
  | file (bytes : ByteArray)
  | folder (children : List (String × Node))
deriving Inhabited

namespace Node

def isFolder : Node → Bool
  | folder _ => true
  | file _ => false

/-- The node at the end of a list of names. -/
def find? : Node → List String → Option Node
  | node, [] => some node
  | file _, _ :: _ => none
  | folder children, name :: names => do
    let child ← children.lookup name
    child.find? names

/-- The children with one of them replaced, or added at the end. -/
def setChild (name : String) (node : Node) : List (String × Node) → List (String × Node)
  | [] => [(name, node)]
  | (other, old) :: rest =>
    if other = name then (name, node) :: rest else (other, old) :: setChild name node rest

/-- The tree with a node put at the end of a list of names, folders made where there are none. -/
def put (new : Node) : List String → Node → Node
  | [], _ => new
  | name :: names, folder children =>
    let child := (children.lookup name).getD (folder [])
    folder (setChild name (put new names child) children)
  | name :: names, file _ => folder [(name, put new names (folder []))]

/-- The tree without the node at the end of a list of names. -/
def erase : List String → Node → Node
  | name :: names, folder children =>
    if names.isEmpty then folder (children.filter fun (other, _) => other != name)
    else
      match children.lookup name with
      | some child => folder (setChild name (erase names child) children)
      | none => folder children
  | _, node => node

end Node

/-- A file system: the tree below the root, and the folder that relative paths start from. -/
structure Files where
  tree : Node := .folder []
  current : List String := []
deriving Inhabited

namespace Files

/-- The longest name, in bytes. -/
def maxName : Nat := 255

/-- The longest path, in bytes. -/
def maxPath : Nat := 4095

/-- One step from a folder, given by the names that lead to it from the root. -/
def step (fs : Files) (place : List String) (piece : String) : Except Fault (List String) :=
  match fs.tree.find? place with
  | some (.folder children) =>
    if piece.isEmpty || piece = "." then .ok place
    else if piece = ".." then .ok place.dropLast
    else if maxName < Text.size piece.toList then .error .nameTooLong
    else if (children.lookup piece).isSome then .ok (place ++ [piece])
    else .error .missing
  | some (.file _) => .error .notFolder
  | none => .error .missing

def steps (fs : Files) (place : List String) : List String → Except Fault (List String)
  | [] => .ok place
  | piece :: rest => do fs.steps (← fs.step place piece) rest

/-- Where the walk along a path starts, and its pieces; no walk starts along a path that no call
accepts. -/
def open? (fs : Files) (p : Path) : Except Fault (List String × List String) :=
  if p.text.toList.contains '\x00' then .error .badName
  else if p.text.isEmpty then .error .missing
  else if maxPath < Text.size p.text.toList then .error .nameTooLong
  else .ok (if p.isAbsolute then [] else fs.current, p.body.map String.ofList)

/-- The names that lead from the root to what a path denotes. -/
def locate (fs : Files) (p : Path) : Except Fault (List String) := do
  let (place, pieces) ← fs.open? p
  fs.steps place pieces

def node (fs : Files) (p : Path) : Except Fault Node := do
  match fs.tree.find? (← fs.locate p) with
  | some node => return node
  | none => throw .missing

/-! ## Looking -/

def isFile (fs : Files) (p : Path) : Bool :=
  match fs.node p with
  | .ok node => !node.isFolder
  | .error _ => false

def isFolder (fs : Files) (p : Path) : Bool :=
  match fs.node p with
  | .ok node => node.isFolder
  | .error _ => false

def has (fs : Files) (p : Path) : Bool := (fs.node p).isOk

/-- The text of a file. -/
def read (fs : Files) (p : Path) : Except Fault String := do
  match ← fs.node p with
  | .folder _ => throw .isFolder
  | .file bytes =>
    match String.fromUTF8? bytes with
    | some text => return text
    | none => throw .notText

/-- Only a path that is short enough leads to a file. -/
theorem length_le_of_read {fs : Files} {p : Path} {text : String} (h : fs.read p = .ok text) :
    p.text.length ≤ maxPath := by
  refine Nat.le_of_not_lt fun long => ?_
  have size : maxPath < Text.size p.text.toList :=
    Nat.lt_of_lt_of_le (by rwa [String.length_toList]) (Text.length_le_size _)
  have opened : (fs.open? p).isOk = false := by
    unfold open?
    split
    · rfl
    · split
      · rfl
      · rfl
  unfold read node locate at h
  cases hopen : fs.open? p with
  | ok _ => simp [hopen, Except.isOk, Except.toBool] at opened
  | error e => simp [hopen, bind, Except.bind] at h

/-! ## Changing -/

/-- The last piece of a path that is more than an empty one, with the pieces before it. -/
def splitLast (pieces : List String) : List String × Option String :=
  let used := (pieces.reverse.dropWhile (·.isEmpty)).reverse
  (used.dropLast, used.getLast?)

/-- Makes one folder. -/
def makeOne (fs : Files) (p : Path) : Except Fault Files := do
  let (place, pieces) ← fs.open? p
  let (before, last) := splitLast pieces
  let place ← fs.steps place before
  match fs.tree.find? place with
  | some (.folder children) =>
    match last with
    | none => throw .exists
    | some name =>
      if name = "." || name = ".." then throw .exists
      else if maxName < Text.size name.toList then throw .nameTooLong
      else if (children.lookup name).isSome then throw .exists
      else return { fs with tree := Node.put (.folder []) (place ++ [name]) fs.tree }
  | some (.file _) => throw .notFolder
  | none => throw .missing

/-- Makes the folders of a list, the nearest to the root last in it; a folder that is there stays.
A missing one is made after those that follow it in the list. -/
def makeEach (fs : Files) : List Path → Files × Except Fault Unit
  | [] => (fs, .error (.other "failed to create whole tree"))
  | p :: rest =>
    if p.text.isEmpty then (fs, .ok ())
    else
      match fs.makeOne p with
      | .ok fs => (fs, .ok ())
      | .error .missing =>
        match fs.makeEach rest with
        | (fs, .error fault) => (fs, .error fault)
        | (fs, .ok ()) =>
          match fs.makeOne p with
          | .ok fs => (fs, .ok ())
          | .error fault => if fs.isFolder p then (fs, .ok ()) else (fs, .error fault)
      | .error fault => if fs.isFolder p then (fs, .ok ()) else (fs, .error fault)

/-- Makes a folder and the folders above it. What was made before a failure stays. -/
def makeFolder (fs : Files) (p : Path) : Files × Except Fault Unit :=
  fs.makeEach p.ancestors

/-- Puts a text into the file at a path, whose folder must be there. -/
def writeOne (fs : Files) (p : Path) (text : String) : Except Fault Files := do
  let (place, pieces) ← fs.open? p
  let (before, last) := splitLast pieces
  let place ← fs.steps place before
  match fs.tree.find? place with
  | some (.folder children) =>
    match last with
    | none => throw .isFolder
    | some name =>
      if name = "." || name = ".." then throw .isFolder
      else if pieces.getLast? = some "" then throw .isFolder
      else if maxName < Text.size name.toList then throw .nameTooLong
      else
        match children.lookup name with
        | some (.folder _) => throw .isFolder
        | _ => return { fs with tree := Node.put (.file text.toUTF8) (place ++ [name]) fs.tree }
  | some (.file _) => throw .notFolder
  | none => throw .missing

/-- The file at a path gone, if there is one. -/
def remove? (fs : Files) (p : Path) : Option Files :=
  match fs.locate p with
  | .ok place =>
    match fs.tree.find? place with
    | some (.file _) => some { fs with tree := Node.erase place fs.tree }
    | _ => none
  | .error _ => none

end Files
end Bundler
