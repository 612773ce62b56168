import Bundler.Script.Grammar.Name

/-!
# Patterns and parameters

What values are bound to.
-/

namespace Bundler.Script.Grammar
open Parse

/-- A type after a colon, if one stands here. -/
def annotation (self : Rec) : Parse (List Tree) := do
  if ← types then
    if ← mark? .colon then
      return [← within (fun c => { c with allowIn := true }) (self .type)]
  return []

/-- A default value, if one stands here. -/
def defaultValue (self : Rec) : Parse (List Tree) := do
  if ← mark? .assign then
    return [← within (fun c => { c with allowIn := true }) (self (.assignment true))]
  else return []

/-- A pattern with its type and default. -/
def element (self : Rec) : Parse Tree := do
  let start ← place
  let target ← self .pattern
  if ← types then
    let _ ← mark? .question
  let type ← annotation self
  let value ← defaultValue self
  node .pattern start (target :: type ++ value)

/-- The rest of the values, which nothing follows. -/
def rest (self : Rec) : Parse Tree := do
  let start ← place
  mark .dots
  let target ← self .pattern
  let type ← annotation self
  node .pattern start (target :: type)

def arrayPattern (self : Rec) : Parse Tree := do
  let start ← place
  mark .brackL
  let items ← many do
    match ← token with
    | .mark .brackR => return none
    | .mark .comma =>
      advance
      return some []
    | .mark .dots =>
      let tree ← rest self
      require (← atMark .brackR)
      return some [tree]
    | _ =>
      let tree ← element self
      if !(← atMark .brackR) then mark .comma
      return some [tree]
  mark .brackR
  node .pattern start items.flatten

/-- One field of a pattern: a name alone, or a key with a pattern. -/
def fieldPattern (self : Rec) : Parse Tree := do
  let start ← place
  if (← atIdentifier) && (← peek).token != .mark .colon then
    let name ← boundName
    node .pattern start (name :: (← defaultValue self))
  else
    let (tree, kind) ← key self
    match kind with
    | .hidden _ => fail
    | _ =>
      mark .colon
      node .pattern start [tree, ← element self]

def objectPattern (self : Rec) : Parse Tree := do
  let start ← place
  mark .braceL
  let items ← many do
    match ← token with
    | .mark .braceR => return none
    | .mark .dots =>
      let start ← place
      advance
      let named ← atIdentifier
      let target ← self .pattern
      flawIf !named
      require (← atMark .braceR)
      return some (← node .pattern start [target])
    | _ =>
      let tree ← fieldPattern self
      if !(← atMark .braceR) then mark .comma
      return some tree
  mark .braceR
  node .pattern start items

/-- A name or pattern that something is bound to. -/
def pattern (self : Rec) : Parse Tree := do
  match ← token with
  | .mark .brackL => arrayPattern self
  | .mark .braceL => objectPattern self
  | _ => boundName

/-! ## Parameters -/

/-- Words that a parameter of a constructor may start with in a script with types. -/
def parameterWords : List String := ["public", "private", "protected", "readonly", "override"]

/-- An expression after an `@`. -/
def decorator (self : Rec) : Parse Tree := do
  let start ← place
  mark .at
  let tree ← within (fun c => { c with decorating := true }) (self .leftHand)
  node .other start [tree]

def decorators (self : Rec) : Parse (List Tree) :=
  many do
    if ← atMark .at then return some (← decorator self) else return none

/-- Words in front of a parameter that are not its name. -/
def parameterModifiers : Parse (List Unit) :=
  many do
    match ← token with
    | .word w true =>
      if parameterWords.contains w then
        let next := (← peek).token
        if Token.isIdentifier next || next == .mark .braceL || next == .mark .brackL then
          advance
          return some ()
        else return none
      else return none
    | _ => return none

/-- One parameter. -/
def parameter (self : Rec) : Parse Tree := do
  let start ← place
  let marks ← decorators self
  if ← types then
    let _ ← parameterModifiers
  if (← types) && (← atWord "this") then
    let name ← anyWord
    node .other start (name :: (← annotation self))
  else
    let tree ← element self
    node .other start (marks ++ [tree])

/-- Parameters in parentheses; the last one may take all values that are left. -/
def parameters (self : Rec) : Parse (List Tree) := do
  mark .parenL
  let items ← within (fun c => { c with allowIn := true, decorating := false }) <| many do
    match ← token with
    | .mark .parenR => return none
    | .mark .dots =>
      let tree ← rest self
      require (← atMark .parenR)
      return some tree
    | _ =>
      let tree ← parameter self
      if !(← atMark .parenR) then mark .comma
      return some tree
  mark .parenR
  return items

end Bundler.Script.Grammar
