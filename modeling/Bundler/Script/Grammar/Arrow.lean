import Bundler.Script.Grammar.Literal

/-!
# Arrow functions

An opening parenthesis may start the parameters of an arrow function or an expression. A look at
the first tokens settles most cases; in the others the parameters are tried.
-/

namespace Bundler.Script.Grammar
open Parse

/-- Whether an arrow function starts. -/
inductive Verdict where
  | yes
  | no
  | perhaps
deriving DecidableEq

/-- The same word read as a token that could name a parameter, `this` included. -/
def Token.namesParameter : Token → Bool
  | .word w _ => w == "this" || !isReserved w
  | _ => false

/-- What an opening parenthesis starts. -/
def verdictParen : Parse Verdict := do
  advance
  match ← token with
  | .mark .parenR =>
    advance
    match ← token with
    | .mark .arrow | .mark .colon | .mark .braceL => return .yes
    | _ => return .no
  | .mark .brackL | .mark .braceL => return .perhaps
  | .mark .dots =>
    advance
    match ← token with
    | .mark .brackL | .mark .braceL => return .perhaps
    | t => return if Token.isIdentifier t then .yes else .no
  | t =>
    let modifier := match t with
      | .word w true => parameterWords.contains w
      | _ => false
    advance
    let second ← token
    if modifier && Token.isIdentifier second && second != .word "as" true then return .yes
    if (← atMark .at) then return .no
    if !Token.namesParameter t then return .no
    match second with
    | .mark .colon => return .yes
    | .mark .question =>
      advance
      match ← token with
      | .mark .colon | .mark .comma | .mark .assign | .mark .parenR => return .yes
      | _ => return .no
    | .mark .comma | .mark .assign | .mark .parenR => return .perhaps
    | _ => return .no

/-- What an opening angle bracket starts. -/
def verdictLess : Parse Verdict := do
  let c ← context
  advance
  let first ← token
  if !(Token.isIdentifier first || first == .word "const" true) then return .no
  if c.dialect.elements then
    advance
    match ← token with
    | .word "extends" _ =>
      advance
      match ← token with
      | .mark .assign | .mark .greater | .mark .slash => return .no
      | _ => return .yes
    | .mark .comma | .mark .assign => return .yes
    | _ => return .no
  else return .perhaps

/-- Answers without reading. -/
def look (p : Parse Verdict) : Parse Verdict := fun c s =>
  match p c s with
  | .ok (v, _) => .ok (v, s)
  | .error _ => .ok (.no, s)

/-- Whether an arrow function with parameters in parentheses starts here. -/
def verdict : Parse Verdict := look do
  let typed ← types
  if ← atWord "async" then
    advance
    if ← fresh then return .no
    match ← token with
    | .mark .parenL => verdictParen
    | .mark .less => if typed then verdictLess else return .no
    | _ => return .no
  else
    match ← token with
    | .mark .parenL => verdictParen
    | .mark .less => if typed then verdictLess else return .no
    | _ => return .no

/-- An arrow function up to its arrow. -/
structure ArrowHead where
  start : Nat
  isAsync : Bool
  parts : List Tree
  /-- The type of its result is named. -/
  named : Bool

/-- Passes the arrow, which starts no line. -/
def arrow : Parse Unit := do
  let late ← fresh
  mark .arrow
  flawIf late

def arrowHead (self : Rec) : Parse ArrowHead := do
  let start ← place
  let isAsync ← word? "async"
  within (fun c => { c with awaits := isAsync }) do
    let generics ← typeParameters self
    let inputs ← parameters self
    let result ← resultAnnotation self
    arrow
    return ⟨start, isAsync, generics ++ inputs ++ result, !result.isEmpty⟩

/-- The body of an arrow function: statements in braces, or an expression. -/
def arrowBody (self : Rec) (isAsync arrowType : Bool) : Parse Tree :=
  within (fun c => { c with awaits := isAsync, yields := false }) do
    if ← atMark .braceL then body self else self (.assignment arrowType)

/-- An arrow function from its body on. Between a `?` and its colon the type of a result is one
only if a colon follows the function. -/
def arrowTail (self : Rec) (arrowType : Bool) (head : ArrowHead) : Parse Tree := do
  let code ← arrowBody self head.isAsync arrowType
  if !arrowType && head.named then require (← atMark .colon)
  node .other head.start (head.parts ++ [code])

/-- What is tried where an arrow function may start: its head alone, or all of it where a colon
must follow it. -/
def arrowTry (self : Rec) (arrowType : Bool) : Parse (ArrowHead ⊕ Tree) := do
  let head ← arrowHead self
  if !arrowType && head.named then return .inr (← arrowTail self arrowType head)
  else return .inl head

/-- An arrow function with parameters in parentheses, if one starts here. -/
def parenthesizedArrow? (self : Rec) (arrowType : Bool) : Parse (Option Tree) := do
  match ← verdict with
  | .no => return none
  | .yes =>
    let head ← arrowHead self
    return some (← arrowTail self arrowType head)
  | .perhaps =>
    let start ← place
    if (← state).noArrows.contains start then return none
    match ← attempt (arrowTry self arrowType) with
    | some (.inl head) => return some (← arrowTail self arrowType head)
    | some (.inr tree) => return some tree
    | none =>
      change fun s => { s with noArrows := start :: s.noArrows }
      return none

/-- An arrow function whose one parameter stands without parentheses, from its arrow on. -/
def simpleArrow (self : Rec) (start : Nat) (name : Tree) (isAsync arrowType : Bool) : Parse Tree := do
  arrow
  let code ← arrowBody self isAsync arrowType
  node .other start [name, code]

/-- `async name =>` on one line, if it stands here. -/
def asyncArrow? (self : Rec) (arrowType : Bool) : Parse (Option Tree) := do
  if !(← atWord "async") then return none
  let next ← peek
  let after := next.next
  if Token.isIdentifier next.token && !next.fresh && after.token == .mark .arrow && !after.fresh then
    let start ← place
    keyword
    let name ← within (fun c => { c with awaits := true }) identifier
    return some (← simpleArrow self start name true arrowType)
  else return none

end Bundler.Script.Grammar
