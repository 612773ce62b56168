import Bundler.Script.Parse

/-!
# Names and keys
-/

namespace Bundler.Script.Grammar
open Parse

/-- The words that name nothing. -/
def reserved : List String :=
  ["break", "case", "catch", "class", "const", "continue", "debugger", "default", "delete", "do",
    "else", "enum", "export", "extends", "false", "finally", "for", "function", "if", "import",
    "in", "instanceof", "new", "null", "return", "super", "switch", "this", "throw", "true", "try",
    "typeof", "var", "void", "while", "with"]

def isReserved (w : String) : Bool := reserved.contains w

/-- The word names something. -/
def Token.isIdentifier : Token → Bool
  | .word w _ => !isReserved w
  | _ => false

def Token.isWord : Token → Bool
  | .word _ _ => true
  | _ => false

def atIdentifier : Parse Bool := return Token.isIdentifier (← token)

/-- A name that is no operator where it stands. -/
def checkName (w : String) : Parse Unit := do
  let c ← context
  flawIf ((c.awaits && w == "await") || (c.yields && w == "yield"))

/-- A name of the given shape. -/
def named (shape : String → Shape) : Parse Tree := do
  match ← token with
  | .word w _ =>
    require !(isReserved w)
    checkName w
    leaf (shape w)
  | _ => fail

/-- A name, as it is used. -/
def identifier : Parse Tree := named .name

/-- A name, as it is bound. -/
def boundName : Parse Tree := named .bound

/-- Any word, as it stands after a dot. -/
def anyWord : Parse Tree := do
  match ← token with
  | .word w _ => leaf (.name w)
  | _ => fail

/-- A name after a `#`. -/
def hiddenName : Parse Tree := do
  match ← token with
  | .hidden _ => leaf .other
  | _ => fail

/-- How the key of a field or member is written. -/
inductive Key where
  | word (text : String)
  | text (value : String)
  | number
  | computed
  | hidden (name : String)
deriving DecidableEq

/-- The key is the given name, written as a word or as a string. -/
def Key.isNamed (key : Key) (name : String) : Bool := key == .word name || key == .text name

/-- The token can start a key. -/
def Token.startsKey : Token → Bool
  | .word _ _ | .text _ | .number | .hidden _ | .mark .brackL => true
  | _ => false

/-- The key of a field or member. -/
def key (self : Rec) : Parse (Tree × Key) := do
  match ← token with
  | .word w _ => return (← leaf .other, .word w)
  | .text v => return (← leaf (.text v), .text v)
  | .number => return (← leaf .other, .number)
  | .hidden n => return (← leaf .other, .hidden n)
  | .mark .brackL => do
    advance
    let tree ← within (fun c => { c with allowIn := true }) (self (.assignment true))
    mark .brackR
    return (tree, .computed)
  | _ => fail

end Bundler.Script.Grammar
