import Bundler.Script.Grammar.TypeStatement

/-!
# Imports and exports
-/

namespace Bundler.Script.Grammar
open Parse

/-! ## Names -/

/-- A name as modules know it: any word, or a string. -/
structure OuterName where
  name : String
  /-- It can name nothing inside a module. -/
  outerOnly : Bool

def outerName : Parse OuterName := do
  match ← token with
  | .word w _ =>
    advance
    return ⟨w, isReserved w⟩
  | .text v =>
    advance
    return ⟨v, true⟩
  | _ => fail

/-- The source of a module. -/
def source : Parse Unit := do
  match ← token with
  | .text _ => advance
  | _ => fail

/-- Words about an imported module, if they stand here. -/
def importAttributes : Parse Unit := do
  let l ← lexeme
  if l.token == .word "with" true || (l.token == .word "assert" true && !l.fresh) then
    advance
    let _ ← enclosed .braceL .braceR do
      match ← token with
      | .word _ _ | .text _ =>
        advance
        mark .colon
        source
        node .other 0 []
      | _ => fail

/-- `from "x"` with what follows it. -/
def fromSource : Parse Unit := do
  word "from"
  source
  importAttributes
  finish

/-- A word `type` in front of one name of a list says something about that name. -/
def typeMark : Parse Unit := do
  if !(← types) then return ()
  if !(← atWord "type") then return ()
  let next ← peek
  let isName : Token → Bool
    | .word _ _ | .text _ => true
    | _ => false
  let marks : Bool := match next.token with
    | .word "as" _ =>
      match next.next.token with
      | .word "as" _ => isName next.next.next.token
      | t => !isName t
    | t => isName t
  if marks then advance

/-! ## Imports -/

/-- One name of a list of imports. -/
def importName : Parse Tree := do
  let start ← place
  typeMark
  let l ← lexeme
  let outer ← outerName
  if ← word? "as" then
    let _ ← identifier
  else
    require !outer.outerOnly
    match l.token with
    | .word w _ => checkName w
    | _ => pure ()
  node .other start []

/-- All exports of a module under one name. -/
def importAll : Parse Unit := do
  mark .star
  word "as"
  let _ ← identifier

/-- Names in braces, or all of them under one name. -/
def importList : Parse Unit := do
  if ← atMark .star then importAll
  else
    let _ ← enclosed .braceL .braceR importName

/-- A word between `import` and what is imported. -/
def importPhase : Parse Unit := do
  let next ← peek
  let after := next.next.token
  match ← token with
  | .word "type" _ =>
    if ← types then
      let marks : Bool := match next.token with
        | .mark .braceL | .mark .star => true
        | .word "from" _ => after == .word "from" true || after == .mark .assign
        | t => Token.isIdentifier t
      if marks then advance
  | .word "defer" _ => if next.token == .mark .star then advance
  | .word "source" _ =>
    let marks : Bool := match next.token with
      | .word "from" _ => after == .word "from" true
      | t => Token.isIdentifier t
    if marks then advance
  | _ => pure ()

/-- An import as a statement. -/
def importStatement (self : Rec) : Parse Tree := do
  let start ← place
  word "import"
  match ← token with
  | .text _ =>
    source
    importAttributes
    finish
    node .other start []
  | _ =>
    importPhase
    if ← atIdentifier then
      let _ ← identifier
      if (← types) && (← atMark .assign) then return ← importAlias self start
      if ← mark? .comma then importList
    else importList
    fromSource
    node .other start []

/-! ## Exports -/

/-- Each name is exported once; in a script with types several declarations may share one. -/
def exported (name : String) : Parse Unit := do
  flawIf (!(← types) && (← state).exports.contains name)
  change fun s => { s with exports := name :: s.exports }

mutual

/-- The names that a pattern binds. -/
def boundNames : Tree → List String
  | .node shape _ _ children =>
    match shape with
    | .bound name => [name]
    | .pattern => boundNamesIn children
    | _ => []

def boundNamesIn : List Tree → List String
  | [] => []
  | tree :: rest => boundNames tree ++ boundNamesIn rest

end

/-- The names that a declaration exports. -/
def declaredNames (tree : Tree) : List String :=
  match (boundNamesIn tree.children).head? with
  | some name => [name]
  | none => tree.children.flatMap fun child => boundNamesIn child.children

/-- One name of a list of exports: inside, and outside. -/
def exportName : Parse (OuterName × OuterName) := do
  typeMark
  let inner ← outerName
  if ← word? "as" then return (inner, ← outerName) else return (inner, inner)

/-- Names in braces, from this module or from another one. -/
def exportList (start : Nat) : Parse Tree := do
  mark .braceL
  let names ← many do
    if ← atMark .braceR then return none
    let name ← exportName
    if !(← atMark .braceR) then mark .comma
    return some name
  mark .braceR
  if ← atWord "from" then fromSource
  else
    flawIf (names.any fun (inner, _) => inner.outerOnly)
    finish
  for (_, outer) in names do exported outer.name
  node .other start []

/-- All that another module exports. -/
def exportAll (start : Nat) : Parse Tree := do
  mark .star
  if ← word? "as" then exported (← outerName).name
  fromSource
  node .other start []

def exportDefault (self : Rec) (start : Nat) (marks : List Tree) : Parse Tree := do
  exported "default"
  keyword
  let first ← place
  let inner ← decorators self
  let marks := marks ++ inner
  let typed ← types
  let tree ← do
    match ← token with
    | .word "class" _ => classTail self first marks
    | .word "function" _ => functionStatement self false false
    | t =>
      let next ← peek
      if ← atAsyncFunction then functionStatement self false false
      else if typed && t == .word "abstract" true && next.token == .word "class" true && !next.fresh then
        advance
        classTail self first marks
      else if typed && t == .word "interface" true && Token.isIdentifier next.token && !next.fresh then
        interfaceStatement self
      else
        require marks.isEmpty
        let tree ← self (.assignment true)
        finish
        pure tree
  node .other start [tree]

/-- A declaration that is exported. -/
def exportDeclaration (self : Rec) (start : Nat) (marks : List Tree) : Parse Tree := do
  let inner ← decorators self
  let marks := marks ++ inner
  let typed ← types
  let tree ← do
    if typed then
      require ((← atTypeStatement) || (← atWord "import"))
      typeStatement self marks
    else
      match ← token with
      | .word w _ =>
        require (["var", "let", "const", "class", "function"].contains w || (← atAsyncFunction))
        declaration self marks
      | _ => fail
  for name in declaredNames tree do exported name
  node .other start [tree]

/-- An export as a statement. -/
def exportStatement (self : Rec) (marks : List Tree) : Parse Tree := do
  let start ← place
  word "export"
  let typed ← types
  let next ← peek
  match ← token with
  | .word "default" _ => exportDefault self start marks
  | .mark .star => exportAll start
  | .mark .braceL => exportList start
  | .mark .assign =>
    require typed
    advance
    let tree ← self .expression
    expressionStatement start tree
  | .word "as" _ =>
    require typed
    advance
    word "namespace"
    let _ ← identifier
    finish
    node .other start []
  | .word "type" _ =>
    if typed && next.token == .mark .braceL then
      advance
      exportList start
    else if typed && next.token == .mark .star then
      advance
      exportAll start
    else exportDeclaration self start marks
  | _ => exportDeclaration self start marks

end Bundler.Script.Grammar
