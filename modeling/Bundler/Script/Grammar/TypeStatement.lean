import Bundler.Script.Grammar.Statement

/-!
# Declarations of types

Statements that only a script with types has.
-/

namespace Bundler.Script.Grammar
open Parse

/-- Words that may stand in front of a declaration. -/
def declarationWords : List String :=
  ["declare", "abstract", "public", "private", "protected", "readonly", "accessor", "async"]

/-- Passes words in front of a declaration as long as they stand on one line. -/
def startsDeclaration : Parse Bool := do
  let verdict ← (none : Option Bool) |> fold fun found => do
    if found.isSome then return none
    let next ← peek
    match ← token with
    | .word w _ =>
      if ["var", "let", "const", "function", "class", "enum"].contains w then return some (some true)
      else if w == "interface" || w == "type" then
        return some (some (Token.isIdentifier next.token && !next.fresh))
      else if w == "module" || w == "namespace" then
        let named := match next.token with
          | .text _ => true
          | t => Token.isIdentifier t
        return some (some (named && !next.fresh))
      else if w == "global" then
        return some (some (next.token == .mark .braceL || next.token == .word "export" true ||
          Token.isIdentifier next.token))
      else if declarationWords.contains w then
        if next.fresh then return some (some false)
        advance
        return some none
      else return some (some false)
    | _ => return some (some false)
  return verdict.getD false

/-- A declaration of a script with types starts here. -/
def atTypeStatement : Parse Bool := ahead startsDeclaration

/-- `type Name = Type`. -/
def typeAlias (self : Rec) : Parse Tree := do
  let start ← place
  word "type"
  let _ ← identifier
  let generics ← typeParameters self
  mark .assign
  let type ← self .type
  finish
  node .other start (generics ++ [type])

def interfaceStatement (self : Rec) : Parse Tree := do
  let start ← place
  word "interface"
  let _ ← identifier
  let generics ← typeParameters self
  let parents ← if ← word? "extends" then interfaces self else pure []
  let _ ← if ← word? "implements" then
      flaw
      interfaces self
    else pure []
  let members ← typeMembers self
  node .other start (generics ++ parents ++ members)

/-- One member of an enumeration. -/
def enumMember (self : Rec) : Parse Tree := do
  let start ← place
  let (name, kind) ← key self
  match kind with
  | .number | .hidden _ => flaw
  | .computed => flawIf !(match name.shape with
      | .text _ | .template _ => true
      | _ => false)
  | _ => pure ()
  let value ← if ← mark? .assign then pure [← self (.assignment true)] else pure []
  node .other start (name :: value)

def enumStatement (self : Rec) : Parse Tree := do
  let start ← place
  let _ ← word? "const"
  word "enum"
  let _ ← identifier
  let members ← enclosed .braceL .braceR (enumMember self)
  node .other start members

/-- `namespace A.B`, `module "x"` and `global`, with statements in braces. -/
def namespaceStatement (self : Rec) : Parse Tree := do
  let start ← place
  let isGlobal ← atWord "global"
  keyword
  let quoted ← do
    if isGlobal then pure false
    else
      match ← token with
      | .text _ =>
        advance
        pure true
      | _ =>
        require (← atIdentifier)
        let _ ← typeName
        pure false
  if quoted && !(← atMark .braceL) then
    finish
    node .other start []
  else node .other start [← blockNode self]

/-- The words in front of a declaration, and whether `declare` is among them. -/
def declarationModifiers : Parse Bool :=
  false |> fold fun declared => do
    match ← token with
    | .word w _ =>
      let next ← peek
      if declarationWords.contains w && w != "async" && !next.fresh && Token.isWord next.token then
        advance
        return some (declared || w == "declare")
      else return none
    | _ => return none

/-- What another module exports, under a new name. -/
def importAlias (self : Rec) (start : Nat) : Parse Tree := do
  mark .assign
  let _ := self
  if (← atWord "require") && (← peek).token == .mark .parenL then
    advance
    advance
    match ← token with
    | .text _ => advance
    | _ => fail
    mark .parenR
  else
    let _ ← typeName
  finish
  node .other start []

/-- A declaration after the words in front of it. -/
def declaration (self : Rec) (marks : List Tree) : Parse Tree := do
  let start ← place
  match ← token with
  | .word "type" _ => typeAlias self
  | .word "interface" _ => interfaceStatement self
  | .word "enum" _ => enumStatement self
  | .word "namespace" _ | .word "module" _ | .word "global" _ => namespaceStatement self
  | .word "class" _ => classTail self start marks
  | .word "function" _ | .word "async" _ => functionStatement self false true
  | .word "var" _ =>
    keyword
    variableStatement self start .var false
  | .word "let" _ =>
    keyword
    variableStatement self start .lexical false
  | .word "const" _ =>
    if (← peek).token == .word "enum" true then enumStatement self
    else
      keyword
      variableStatement self start .const false
  | .word "import" _ =>
    keyword
    let _ ← identifier
    importAlias self start
  | _ => fail

/-- A declaration of a script with types. -/
def typeStatement (self : Rec) (marks : List Tree) : Parse Tree := do
  let declared ← declarationModifiers
  within (fun c => { c with ambient := c.ambient || declared }) (declaration self marks)

end Bundler.Script.Grammar
