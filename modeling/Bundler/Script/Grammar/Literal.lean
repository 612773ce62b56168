import Bundler.Script.Grammar.Class

/-!
# Lists, fields and templates
-/

namespace Bundler.Script.Grammar
open Parse

/-- The surroundings inside brackets of any kind. -/
def Context.open (c : Context) : Context := { c with allowIn := true, decorating := false }

/-- Three dots and an expression. -/
def spread (self : Rec) : Parse Tree := do
  let start ← place
  mark .dots
  node .spread start [← self (.assignment true)]

/-- An expression, or a spread one. -/
def argument (self : Rec) : Parse Tree := do
  if ← atMark .dots then spread self else self (.assignment true)

/-- Arguments in parentheses. -/
def arguments (self : Rec) : Parse (List Tree) :=
  within Context.open (enclosed .parenL .parenR (argument self))

/-- The last item is spread, and a comma follows it. -/
def spreadComma (items : List Tree) (comma : Bool) : Bool :=
  comma && items.getLast?.any fun tree => tree.shape == .spread

/-- Expressions in brackets, with holes where none stands. -/
def arrayLiteral (self : Rec) : Parse Tree := within Context.open do
  let start ← place
  mark .brackL
  let items ← many do
    match ← token with
    | .mark .brackR => return none
    | .mark .comma => return some (← leaf .hole, false)
    | _ =>
      let tree ← argument self
      if ← atMark .brackR then return some (tree, false)
      mark .comma
      return some (tree, true)
  mark .brackR
  let trees := items.map (·.1)
  let comma := (items.getLast?.map (·.2)).getD false
  node (.array (spreadComma trees comma)) start trees

/-! ## Fields -/

/-- A method, getter or setter among fields. -/
def method (self : Rec) (start : Nat) (isAsync isGenerator : Bool) (role : Role) : Parse Tree := do
  let (name, kind) ← key self
  match kind with
  | .hidden _ => flaw
  | _ => pure ()
  node .other start (name :: (← functionTail self isAsync isGenerator role true))

/-- A name that is a field, with a default where the fields are a pattern. -/
def shorthandField (self : Rec) : Parse Tree := do
  let start ← place
  let name ← identifier
  if ← mark? .assign then
    let value ← self (.assignment true)
    change fun s => { s with defaults := start :: s.defaults }
    node .shorthand start [name, value]
  else node .shorthand start [name]

/-- One field. -/
def field (self : Rec) : Parse Tree := do
  let start ← place
  let next ← peek
  let nextKey := Token.startsKey next.token
  match ← token with
  | .mark .dots => spread self
  | .mark .star =>
    advance
    method self start false true .call
  | t =>
    if Parse.Token.isWord "get" t && nextKey then
      keyword
      method self start false false .getter
    else if Parse.Token.isWord "set" t && nextKey then
      keyword
      method self start false false .setter
    else if Parse.Token.isWord "async" t && (nextKey || next.token == .mark .star) && !next.fresh then
      keyword
      let isGenerator ← mark? .star
      method self start true isGenerator .call
    else
      let typed ← types
      let keyed := next.token == .mark .parenL || next.token == .mark .colon ||
        (typed && next.token == .mark .less)
      if Token.isIdentifier t && !keyed then shorthandField self
      else
        let (name, kind) ← key self
        match kind with
        | .hidden _ => flaw
        | _ => pure ()
        if ← mark? .colon then node .field start [name, ← self (.assignment true)]
        else node .other start (name :: (← functionTail self false false .call true))

/-- Fields in braces. -/
def objectLiteral (self : Rec) : Parse Tree := within Context.open do
  let start ← place
  mark .braceL
  let (items, comma) ← commas .braceR (field self)
  mark .braceR
  node (.object (spreadComma items comma)) start items

/-! ## Templates -/

/-- A template. Only after a tag its escapes may stand for nothing. -/
def templateLiteral (self : Rec) (tagged : Bool) : Parse Tree := within Context.open do
  let start ← place
  let first ← token
  let items ← many do
    match ← token with
    | .template value false =>
      flawIf (value.isNone && !tagged)
      advance
      let tree ← self .expression
      require (← atMark .braceR)
      reread Lexeme.asTemplate
      return some tree
    | _ => return none
  match ← token with
  | .template value true =>
    flawIf (value.isNone && !tagged)
    advance
    match first, value with
    | .template _ true, some value => node (.template value) start items
    | _, _ => node .other start items
  | _ => fail

end Bundler.Script.Grammar
