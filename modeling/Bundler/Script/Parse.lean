import Bundler.Script.Lexer
import Bundler.Script.Tree

/-!
# Reading trees

A reader takes tokens from the front of a script. It fails where no tree can go on. It goes on
past a flaw, which spoils the script all the same unless the reading is taken back.
-/

namespace Bundler.Script

/-- What the surroundings allow. -/
structure Context where
  dialect : Dialect
  /-- No row of anything is longer. -/
  bound : Nat
  /-- `in` is an operator. -/
  allowIn : Bool := true
  /-- `await` is an operator. -/
  awaits : Bool := true
  /-- `yield` is an operator. -/
  yields : Bool := false
  /-- `return` may stand. -/
  returns : Bool := false
  /-- Things are declared without their values. -/
  ambient : Bool := false
  /-- `extends` starts no conditional type. -/
  noConditional : Bool := false
  /-- A bracket starts no member. -/
  decorating : Bool := false

structure State where
  lexeme : Lexeme
  /-- Where the token before ended. -/
  last : Nat := 0
  flawed : Bool := false
  /-- Where shorthand fields with a default start that stand in no pattern so far. -/
  defaults : List Nat := []
  /-- The names exported so far. -/
  exports : List String := []
  /-- Where an opening parenthesis starts no arrow function. -/
  noArrows : List Nat := []

/-- A reading that cannot go on, with what it found out about arrow functions. -/
structure Failure where
  noArrows : List Nat

/-- A reader of something. -/
def Parse (α : Type) : Type := Context → State → Except Failure (α × State)

namespace Parse

@[always_inline, inline]
def ret (a : α) : Parse α := fun _ s => .ok (a, s)

@[always_inline, inline]
def andThen (p : Parse α) (f : α → Parse β) : Parse β := fun c s =>
  match p c s with
  | .ok (a, s) => f a c s
  | .error e => .error e

instance : Monad Parse where
  pure := ret
  bind := andThen

def fail : Parse α := fun _ s => .error ⟨s.noArrows⟩

instance : Inhabited (Parse α) := ⟨fail⟩

def state : Parse State := fun _ s => .ok (s, s)

def change (f : State → State) : Parse Unit := fun _ s => .ok ((), f s)

def context : Parse Context := fun c s => .ok (c, s)

/-- Reads in other surroundings. -/
def within (f : Context → Context) (p : Parse α) : Parse α := fun c s => p (f c) s

def flaw : Parse Unit := change fun s => { s with flawed := true }

def flawIf (b : Bool) : Parse Unit := if b then flaw else ret ()

/-- Fails unless something holds. -/
def require (b : Bool) : Parse Unit := if b then ret () else fail

/-- Answers a question about what follows, without reading it. -/
def ahead (p : Parse Bool) : Parse Bool := fun c s =>
  match p c s with
  | .ok (b, _) => .ok (b, s)
  | .error _ => .ok (false, s)

/-- Reads something, or nothing where that fails. -/
def attempt (p : Parse α) : Parse (Option α) := fun c s =>
  match p c s with
  | .ok (a, s) => .ok (some a, s)
  | .error e => .ok (none, { s with noArrows := e.noArrows })

/-- Reads as long as there is something to read, at most so often. -/
def upTo (p : Parse (Option α)) : Nat → Parse (List α)
  | 0 => fail
  | n + 1 => do
    match ← p with
    | some a => return a :: (← upTo p n)
    | none => return []

/-- Reads as long as there is something to read. -/
def many (p : Parse (Option α)) : Parse (List α) := do
  upTo p (← context).bound

/-- Changes a value by reading as long as there is something to read, at most so often. -/
def foldUpTo (p : α → Parse (Option α)) : Nat → α → Parse α
  | 0, _ => fail
  | n + 1, a => do
    match ← p a with
    | some a => foldUpTo p n a
    | none => return a

/-- Changes a value by reading as long as there is something to read. -/
def fold (p : α → Parse (Option α)) (a : α) : Parse α := do
  foldUpTo p (← context).bound a

/-! ## Tokens -/

def lexeme : Parse Lexeme := return (← state).lexeme

def token : Parse Token := return (← state).lexeme.token

/-- Where the token starts. -/
def place : Parse Nat := return (← state).lexeme.start

/-- The token stands first on its line. -/
def fresh : Parse Bool := return (← state).lexeme.fresh

/-- The lexeme after the next token. -/
def peek : Parse Lexeme := return (← state).lexeme.next

/-- Goes on to another lexeme. -/
def goTo (l : Lexeme) : Parse Unit :=
  change fun s => { s with lexeme := l, last := s.lexeme.stop }

/-- Passes the token. -/
def advance : Parse Unit := do
  match ← token with
  | .bad => fail
  | _ => change fun s => { s with lexeme := s.lexeme.next, last := s.lexeme.stop }

/-- Reads the token differently. -/
def reread (f : Lexeme → Lexeme) : Parse Unit := change fun s => { s with lexeme := f s.lexeme }

def atMark (m : Mark) : Parse Bool := return (← token) == .mark m

/-- Passes a sign if it stands here. -/
def mark? (m : Mark) : Parse Bool := do
  if ← atMark m then
    advance
    return true
  else return false

def mark (m : Mark) : Parse Unit := do
  require (← mark? m)

def Token.isWord (w : String) : Token → Bool
  | .word text _ => text == w
  | _ => false

def atWord (w : String) : Parse Bool := return Token.isWord w (← token)

/-- Passes a keyword, which is not written with escapes. -/
def keyword : Parse Unit := do
  match ← token with
  | .word _ plain =>
    flawIf !plain
    advance
  | _ => fail

/-- Passes a keyword if it stands here. -/
def word? (w : String) : Parse Bool := do
  if ← atWord w then
    keyword
    return true
  else return false

def word (w : String) : Parse Unit := do
  require (← word? w)

def types : Parse Bool := return (← context).dialect.types

/-! ## Ends of statements -/

/-- A statement may end here. -/
def canEnd : Parse Bool := do
  let l ← lexeme
  return l.fresh || l.token == .mark .semicolon || l.token == .mark .braceR || l.token == .stop

/-- Ends a statement. -/
def finish : Parse Unit := do
  require (← canEnd)
  let _ ← mark? .semicolon

/-! ## Trees -/

/-- A node from a place up to the last token. -/
def node (shape : Shape) (start : Nat) (children : List Tree) : Parse Tree :=
  return .node shape start (← state).last children

/-- A node for the token. -/
def leaf (shape : Shape) : Parse Tree := do
  let start ← place
  advance
  node shape start []

/-- Items with commas between them, up to a closing sign that is not passed, and whether a comma
stands at their end. -/
def commas (close : Mark) (item : Parse Tree) : Parse (List Tree × Bool) := do
  let items ← many do
    if ← atMark close then return none
    let tree ← item
    if ← atMark close then return some (tree, false)
    mark .comma
    return some (tree, true)
  return (items.map (·.1), (items.getLast?.map (·.2)).getD false)

/-- Items with commas between them, in signs. -/
def enclosed (opening closing : Mark) (item : Parse Tree) : Parse (List Tree) := do
  mark opening
  let (items, _) ← commas closing item
  mark closing
  return items

end Parse

/-- What can be read inside of itself. -/
inductive Goal where
  /-- A statement, and whether it stands where only one may. -/
  | statement (single : Bool)
  /-- Expressions with commas between them. -/
  | expression
  /-- One expression without a comma, and whether an arrow function in it may name its result. -/
  | assignment (arrowType : Bool)
  /-- An expression without operators. -/
  | leftHand
  /-- An operand with the signs in front of it. -/
  | operand
  /-- Operands with operators that bind more than so much. -/
  | operation (level : Nat)
  /-- A name or pattern that something is bound to. -/
  | pattern
  | type
  /-- An element with its tags, and whether text stands after it. -/
  | element (inText : Bool)

/-- Reads what has been asked for, one level further in. -/
abbrev Rec := Goal → Parse Tree

end Bundler.Script
