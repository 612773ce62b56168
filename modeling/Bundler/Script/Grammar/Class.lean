import Bundler.Script.Grammar.Function

/-!
# Classes
-/

namespace Bundler.Script.Grammar
open Parse

/-- Words in front of a member that are not its name. -/
structure Modifiers where
  words : List String := []

def Modifiers.isStatic (m : Modifiers) : Bool := m.words.contains "static"

def Modifiers.isAsync (m : Modifiers) : Bool := m.words.contains "async"

def memberWords : List String := ["static", "async", "accessor"]

/-- Further words that a member may start with in a script with types. -/
def typedMemberWords : List String :=
  ["public", "private", "protected", "readonly", "declare", "abstract", "override"]

/-- The token can follow a word that is no name of a member. -/
def Token.followsModifier : Token → Bool
  | .mark .star | .mark .dots => true
  | t => Token.startsKey t

/-- The words in front of a member, each of them once. A second `static` is a name. -/
def modifiers : Parse Modifiers := do
  let typed ← types
  {} |> fold fun m => do
    match ← token with
    | .word w true =>
      if memberWords.contains w || (typed && typedMemberWords.contains w) then
        let next ← peek
        let stays := w == "static" && m.isStatic
        if !stays && Token.followsModifier next.token && (w == "static" || !next.fresh) then
          advance
          flawIf (m.words.contains w)
          return some { m with words := w :: m.words }
        else return none
      else return none
    | _ => return none

/-- A field of a class, after its key. -/
def classField (self : Rec) (start : Nat) (front : List Tree) : Parse Tree := do
  let type ← annotation self
  let value ← do
    if ← mark? .assign then
      let inside (c : Context) : Context :=
        { c with allowIn := true, awaits := false, yields := false, decorating := false }
      pure [← within inside (self (.assignment true))]
    else pure []
  let tree ← node .other start (front ++ type ++ value)
  finish
  return tree

/-- A class has no field, getter, setter, generator or asynchronous method that is its
constructor, no static prototype, and no hidden constructor. -/
def checkMember (m : Modifiers) (role : Role) (isGenerator isMethod : Bool) (kind : Key) : Parse Unit := do
  flawIf (kind == .hidden "constructor")
  flawIf (m.isStatic && kind.isNamed "prototype")
  if kind.isNamed "constructor" then
    flawIf !isMethod
    flawIf (!m.isStatic && (role != .call || isGenerator || m.isAsync))

/-- A member with a key. -/
def keyedMember (self : Rec) (start : Nat) (marks : List Tree) (m : Modifiers) : Parse Tree := do
  let next := (← peek).token
  let accesses := (Token.startsKey next || next == .mark .star)
  let role ← do
    if (← atWord "get") && accesses then
      keyword
      pure Role.getter
    else if (← atWord "set") && accesses then
      keyword
      pure Role.setter
    else pure Role.call
  let isGenerator ← if role == .call then mark? .star else pure false
  let (name, kind) ← key self
  if ← types then
    if !(← mark? .question) then
      if !(← fresh) then
        let _ ← mark? .bang
  let isMethod := (← atMark .parenL) || ((← types) && (← atMark .less))
  if role == .call && !isGenerator && !m.isAsync && !isMethod then
    checkMember m role isGenerator false kind
    classField self start (marks ++ [name])
  else
    checkMember m role isGenerator true kind
    let parts ← functionTail self m.isAsync isGenerator role false
    node .other start (marks ++ name :: parts)

/-- Statements that run once for the class. -/
def staticBlock (self : Rec) : Parse Tree := do
  let start ← place
  advance
  let inside (c : Context) : Context :=
    { c with allowIn := true, awaits := true, yields := false, returns := false, decorating := false }
  node .other start (← within inside (block self))

/-- One member of a class. -/
def classMember (self : Rec) : Parse Tree := do
  let start ← place
  let marks ← decorators self
  if (← atWord "static") && (← peek).token == .mark .braceL then staticBlock self
  else
    let m ← modifiers
    if (← atWord "static") && (← peek).token == .mark .braceL then staticBlock self
    else if (← types) && (← atIndex) then
      let tree ← indexMember self
      finishMember
      return tree
    else keyedMember self start marks m

/-- What a class extends and implements. -/
structure Heritage where
  parent : List Tree := []
  generics : List Tree := []
  interfaces : List Tree := []

/-- The classes after `extends`, of which the first one counts. -/
def parents (self : Rec) : Parse Heritage := do
  let one : Parse Heritage := do
    let parent ← self .leftHand
    let generics ← if ← types then typeArguments self else pure []
    return { parent := [parent], generics := generics }
  let first ← one
  let _ ← many do
    if ← mark? .comma then return some (← one) else return none
  return first

/-- The types after `implements`. -/
def interfaces (self : Rec) : Parse (List Tree) := do
  let one : Parse Tree := do
    let start ← place
    let name ← typeName
    node .other start (name :: (← typeArguments self))
  let first ← one
  let others ← many do
    if ← mark? .comma then return some (← one) else return none
  return first :: others

def heritage (self : Rec) : Parse Heritage :=
  {} |> fold fun h => do
    if ← word? "extends" then
      flawIf (!h.parent.isEmpty || !h.interfaces.isEmpty)
      let first ← parents self
      return some { first with interfaces := h.interfaces }
    else if ← word? "implements" then
      flawIf !h.interfaces.isEmpty
      return some { h with interfaces := ← interfaces self }
    else return none

/-- A class from the word `class` on, after its decorators. -/
def classTail (self : Rec) (start : Nat) (marks : List Tree) : Parse Tree := do
  word "class"
  let named := (← atIdentifier) && !(← atWord "implements")
  let name ← if named then pure [← boundName] else pure []
  let generics ← typeParameters self
  let h ← heritage self
  mark .braceL
  let members ← within (fun c => { c with decorating := false }) <| many do
    let _ ← many do
      if ← mark? .semicolon then return some () else return none
    if ← atMark .braceR then return none
    return some (← classMember self)
  mark .braceR
  node .other start (marks ++ name ++ generics ++ h.parent ++ h.generics ++ h.interfaces ++ members)

/-- A class as an expression. -/
def classExpression (self : Rec) : Parse Tree := do
  let start ← place
  let marks ← decorators self
  classTail self start marks

end Bundler.Script.Grammar
