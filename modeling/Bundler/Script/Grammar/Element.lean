import Bundler.Script.Grammar.Literal

/-!
# Elements

Tags with attributes and what stands between them.
-/

namespace Bundler.Script.Grammar
open Parse

/-- One word of the name of an element or attribute. -/
def elementWord : Parse String := do
  require (Token.isWord (← token))
  reread Lexeme.asElementName
  match ← token with
  | .word w _ =>
    advance
    return w
  | _ => fail

/-- The name of an element: words with dots, or two words with a colon between them. -/
def elementName : Parse (Tree × String) := do
  let start ← place
  let first ← elementWord
  let name ← do
    if ← mark? .colon then pure (first ++ ":" ++ (← elementWord))
    else
      first |> fold fun name => do
        if ← mark? .dot then
          match ← token with
          | .word w _ =>
            advance
            return some (name ++ "." ++ w)
          | _ => fail
        else return none
  return (← node .other start [], name)

/-- Passes a sign after which text stands, or a token. -/
def close (m : Mark) (inText : Bool) : Parse Unit := do
  require (← atMark m)
  if inText then goTo (← lexeme).nextPassage else advance

/-- An expression in braces, or nothing in them. -/
def container (self : Rec) (inText : Bool) : Parse Tree := do
  let start ← place
  mark .braceL
  let inner ← within Context.open do
    match ← token with
    | .mark .braceR => pure []
    | .mark .dots => pure [← spread self]
    | _ => pure [← self .expression]
  close .braceR inText
  node .other start inner

/-- The value of an attribute. -/
def attributeValue (self : Rec) : Parse Tree := do
  match ← token with
  | .text _ => leaf .other
  | .mark .braceL => container self false
  | .mark .less => self (.element false)
  | _ => fail

/-- One attribute. -/
def oneAttribute (self : Rec) : Parse Tree := do
  let start ← place
  if ← atMark .braceL then
    advance
    let tree ← within Context.open (spread self)
    mark .braceR
    node .other start [tree]
  else
    let _ ← elementWord
    if ← mark? .colon then
      let _ ← elementWord
    if ← atMark .assign then
      goTo (← lexeme).nextValue
      node .other start [← attributeValue self]
    else node .other start []

/-- The attributes of a tag, up to its end. -/
def attributes (self : Rec) : Parse (List Tree) :=
  many do
    match ← token with
    | .mark .greater | .mark .slash | .stop => return none
    | _ => return some (← oneAttribute self)

/-- What stands between two tags, up to the second one. -/
def passages (self : Rec) : Parse (List Tree) :=
  many do
    match ← token with
    | .passage =>
      let start ← place
      goTo (← lexeme).nextPassage
      return some (← node .other start [])
    | .mark .braceL => return some (← container self true)
    | .mark .less =>
      if (← peek).token == .mark .slash then return none
      return some (← self (.element true))
    | _ => fail

/-- An element, or elements in an empty tag; `inText` says whether text stands after it. -/
def tagged (self : Rec) (inText : Bool) : Parse Tree := do
  let start ← place
  mark .less
  if ← atMark .greater then
    close .greater true
    let inner ← passages self
    mark .less
    mark .slash
    close .greater inText
    node .other start inner
  else
    let (tree, name) ← elementName
    let generics ← if ← types then typeArguments self else pure []
    let attributes ← attributes self
    if ← mark? .slash then
      close .greater inText
      node .other start (tree :: generics ++ attributes)
    else
      close .greater true
      let inner ← passages self
      mark .less
      mark .slash
      let (_, closing) ← elementName
      flawIf (closing != name)
      close .greater inText
      node .other start (tree :: generics ++ attributes ++ inner)

end Bundler.Script.Grammar
