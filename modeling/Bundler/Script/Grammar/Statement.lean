import Bundler.Script.Grammar.Expression

/-!
# Statements
-/

namespace Bundler.Script.Grammar
open Parse

/-! ## Variables -/

/-- The words that declare variables. -/
inductive Declares where
  | var
  | lexical
  | const
  | using
deriving DecidableEq

def Declares.isLexical (d : Declares) : Bool := d != .var

/-- A variable with its value, and whether it must have one and has none. -/
def oneVariable (self : Rec) (d : Declares) : Parse (Tree × Bool) := do
  let start ← place
  let named ← atIdentifier
  flawIf (d == .using && !named)
  let name ← self .pattern
  let type ← do
    if ← types then
      if named && !(← fresh) then
        let _ ← mark? .bang
      annotation self
    else pure []
  let value ← if ← mark? .assign then pure [← self (.assignment true)] else pure []
  let missing := value.isEmpty && (d == .const || d == .using || !named)
  return (← node .other start (name :: type ++ value), missing)

/-- The variables after the word that declares them, and whether one lacks its value. -/
def bindings (self : Rec) (start : Nat) (d : Declares) : Parse (Tree × Bool) := do
  let first ← oneVariable self d
  let others ← many do
    if ← mark? .comma then return some (← oneVariable self d) else return none
  let all := first :: others
  return (← node .other start (all.map (·.1)), all.any (·.2))

/-- Variables as a statement. Constants and patterns have values unless nothing has. -/
def variableStatement (self : Rec) (start : Nat) (d : Declares) (single : Bool) : Parse Tree := do
  let (tree, missing) ← bindings self start d
  flawIf (missing && !(← context).ambient)
  finish
  flawIf (single && d.isLexical)
  return tree

/-- The next token shows that `let` declares something. -/
def Token.followsLet : Token → Bool
  | .mark .brackL | .mark .braceL => true
  | t => Token.isIdentifier t

/-- `using` declares something here. -/
def atUsing : Parse Bool := do
  let next ← peek
  return (← atWord "using") && !next.fresh && Token.isIdentifier next.token

/-- `await using` declares something here. -/
def atAwaitUsing : Parse Bool := do
  let next ← peek
  let after := next.next
  return (← atWord "await") && next.token == .word "using" true && !next.fresh &&
    !after.fresh && Token.isIdentifier after.token

/-! ## Simple statements -/

def expressionStatement (start : Nat) (tree : Tree) : Parse Tree := do
  finish
  node .other start [tree]

/-- An expression, or a label before a statement. -/
def labelled (self : Rec) : Parse Tree := do
  let start ← place
  let tree ← self .expression
  match tree.shape with
  | .name _ =>
    if ← mark? .colon then node .other start [← self (.statement true)]
    else expressionStatement start tree
  | _ => expressionStatement start tree

/-- A statement that starts with the word `let`. -/
def letStatement (self : Rec) (single : Bool) : Parse Tree := do
  let start ← place
  let next ← peek
  if (assignment? next.token).isSome || (binding? next.token).isSome then
    let tree ← self (.assignment true)
    expressionStatement start tree
  else if next.token == .mark .dot || next.token == .mark .parenL then
    let tree ← self .expression
    expressionStatement start tree
  else if (single && next.token != .mark .brackL) || next.token == .mark .semicolon then
    let tree ← identifier
    expressionStatement start tree
  else
    keyword
    variableStatement self start .lexical single

/-- An expression in parentheses after a word. -/
def condition (self : Rec) : Parse Tree := do
  mark .parenL
  let tree ← within Context.open (self .expression)
  mark .parenR
  return tree

def ifStatement (self : Rec) : Parse Tree := do
  let start ← place
  keyword
  let test ← condition self
  let yes ← self (.statement true)
  let no ← if ← word? "else" then pure [← self (.statement true)] else pure []
  node .other start (test :: yes :: no)

def doStatement (self : Rec) : Parse Tree := do
  let start ← place
  keyword
  let code ← self (.statement true)
  word "while"
  let test ← condition self
  let _ ← mark? .semicolon
  node .other start [code, test]

/-- `while` and `with`. -/
def whileStatement (self : Rec) : Parse Tree := do
  let start ← place
  keyword
  let test ← condition self
  node .other start [test, ← self (.statement true)]

/-- `break` and `continue`, with a label on the same line. -/
def jumpStatement : Parse Tree := do
  let start ← place
  keyword
  let label ← if ← canEnd then pure [] else pure [← identifier]
  finish
  node .other start label

def returnStatement (self : Rec) : Parse Tree := do
  let start ← place
  flawIf !(← context).returns
  keyword
  if ← canEnd then
    finish
    node .other start []
  else
    let tree ← within (fun c => { c with allowIn := true }) (self .expression)
    expressionStatement start tree

def throwStatement (self : Rec) : Parse Tree := do
  let start ← place
  keyword
  flawIf (← fresh)
  let tree ← self .expression
  expressionStatement start tree

/-- One case of a `switch`. -/
def switchCase (self : Rec) : Parse Tree := do
  let start ← place
  let test ← do
    if ← word? "default" then pure []
    else
      word "case"
      pure [← self .expression]
  mark .colon
  let code ← many do
    match ← token with
    | .mark .braceR | .word "case" _ | .word "default" _ | .stop => return none
    | _ => return some (← self (.statement false))
  node .other start (test ++ code)

def switchStatement (self : Rec) : Parse Tree := do
  let start ← place
  keyword
  let test ← condition self
  mark .braceL
  let cases ← many do
    if ← atMark .braceR then return none else return some (← switchCase self)
  mark .braceR
  node .other start (test :: cases)

/-- The name that a `catch` binds. -/
def catchName (self : Rec) : Parse (List Tree) := do
  if ← mark? .parenL then
    let name ← self .pattern
    let type ← annotation self
    mark .parenR
    return name :: type
  else return []

def tryStatement (self : Rec) : Parse Tree := do
  let start ← place
  keyword
  let code ← blockNode self
  let handler ← do
    if ← word? "catch" then
      let name ← catchName self
      pure (name ++ [← blockNode self])
    else pure []
  let last ← if ← word? "finally" then pure [← blockNode self] else pure []
  flawIf (handler.isEmpty && last.isEmpty)
  node .other start (code :: handler ++ last)

/-! ## Loops -/

/-- The rest of a loop with a start, a test and a step. -/
def countingLoop (self : Rec) (start : Nat) (front : List Tree) (isAwait : Bool) : Parse Tree := do
  flawIf isAwait
  mark .semicolon
  let test ← do
    if ← atMark .semicolon then pure [] else pure [← within Context.open (self .expression)]
  mark .semicolon
  let step ← do
    if ← atMark .parenR then pure [] else pure [← within Context.open (self .expression)]
  mark .parenR
  node .other start (front ++ test ++ step ++ [← self (.statement true)])

/-- The rest of a loop over keys. -/
def keyLoop (self : Rec) (start : Nat) (left : Tree) (isAwait : Bool) : Parse Tree := do
  flawIf isAwait
  keyword
  let right ← within Context.open (self .expression)
  mark .parenR
  node .other start [left, right, ← self (.statement true)]

/-- The rest of a loop over values. -/
def valueLoop (self : Rec) (start : Nat) (left : Tree) : Parse Tree := do
  keyword
  let right ← within Context.open (self (.assignment true))
  mark .parenR
  node .other start [left, right, ← self (.statement true)]

/-- A loop whose head declares variables. -/
def declaringLoop (self : Rec) (start : Nat) (d : Declares) (isAwait : Bool) : Parse Tree := do
  let first ← place
  keyword
  let (tree, missing) ← within (fun c => { c with allowIn := false }) (bindings self first d)
  match ← token with
  | .word "in" _ => keyLoop self start tree isAwait
  | .word "of" _ => valueLoop self start tree
  | _ =>
    flawIf missing
    countingLoop self start [tree] isAwait

/-- A loop whose head starts with an expression. -/
def expressionLoop (self : Rec) (start : Nat) (isAwait : Bool) : Parse Tree := do
  let first ← token
  let startsLet := first == .word "let" true
  let isAsyncWord := first == .word "async" true && (← peek).token == .word "of" true
  let tree ← within (fun c => { c with allowIn := false }) (self .expression)
  match ← token with
  | .word "in" _ =>
    target tree
    keyLoop self start tree isAwait
  | .word "of" _ =>
    flawIf (startsLet || (isAsyncWord && !isAwait))
    target tree
    valueLoop self start tree
  | _ => countingLoop self start [tree] isAwait

/-- `using` declares something in the head of a loop. -/
def atLoopUsing : Parse Bool := do
  let next ← peek
  return (← atUsing) && (next.token != .word "of" true || next.next.token == .mark .assign ||
    next.next.token == .word "of" true)

def forStatement (self : Rec) : Parse Tree := do
  let start ← place
  keyword
  let isAwait ← do
    if ← atWord "await" then
      flawIf !(← context).awaits
      keyword
      pure true
    else pure false
  mark .parenL
  match ← token with
  | .mark .semicolon => countingLoop self start [] isAwait
  | .word "var" _ => declaringLoop self start .var isAwait
  | .word "const" _ => declaringLoop self start .const isAwait
  | _ =>
    if (← atWord "let") && Token.followsLet (← peek).token then declaringLoop self start .lexical isAwait
    else if ← atLoopUsing then declaringLoop self start .using isAwait
    else if ← atAwaitUsing then
      keyword
      declaringLoop self start .using isAwait
    else expressionLoop self start isAwait

end Bundler.Script.Grammar
