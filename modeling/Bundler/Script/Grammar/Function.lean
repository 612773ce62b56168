import Bundler.Script.Grammar.Type

/-!
# Functions
-/

namespace Bundler.Script.Grammar
open Parse

/-- Statements in braces. -/
def block (self : Rec) : Parse (List Tree) := do
  mark .braceL
  let items ← many do
    match ← token with
    | .mark .braceR | .stop => return none
    | _ => return some (← self (.statement false))
  mark .braceR
  return items

def blockNode (self : Rec) : Parse Tree := do
  let start ← place
  node .other start (← block self)

/-- The surroundings inside a function. -/
def Context.inside (isAsync isGenerator : Bool) (c : Context) : Context :=
  { c with allowIn := true, awaits := isAsync, yields := isGenerator, decorating := false }

/-- The body of a function. -/
def body (self : Rec) : Parse Tree :=
  within (fun c => { c with returns := true, allowIn := true, decorating := false }) (blockNode self)

/-- What a function does with its name. -/
inductive Role where
  /-- It can be called by it. -/
  | call
  /-- It answers when the name is read. -/
  | getter
  /-- It is told when the name is written. -/
  | setter
deriving DecidableEq

/-- A getter has no parameter and a setter has one. -/
def checkCount (role : Role) (inputs : List Tree) (hasRest : Bool) : Parse Unit :=
  match role with
  | .call => pure ()
  | .getter => flawIf !inputs.isEmpty
  | .setter => flawIf (inputs.length != 1 || hasRest)

/-- The first parameter takes all values. -/
def atRest : Parse Bool := return (← peek).token == .mark .dots

/-- A function from its parameters on. Only where types may stand it can have no body. -/
def functionTail (self : Rec) (isAsync isGenerator : Bool) (role : Role) (needsBody : Bool) :
    Parse (List Tree) :=
  within (Context.inside isAsync isGenerator) do
    let generics ← typeParameters self
    let hasRest ← atRest
    let inputs ← parameters self
    checkCount role inputs hasRest
    let result ← resultAnnotation self
    let code ← do
      if ← atMark .braceL then pure [← body self]
      else
        require ((← types) && !needsBody)
        finish
        pure []
    return generics ++ inputs ++ result ++ code

/-- A function after the word `function`. -/
def functionAfterWord (self : Rec) (start : Nat) (isAsync declares needsName : Bool) :
    Parse (Tree × Bool) := do
  let isGenerator ← mark? .star
  let named ← atIdentifier
  let name ← do
    if named then
      let inside := if declares then id else Context.inside isAsync isGenerator
      pure [← within inside boundName]
    else
      require !needsName
      pure []
  let parts ← functionTail self isAsync isGenerator .call (!declares)
  return (← node .other start (name ++ parts), isGenerator)

/-- A function as an expression. -/
def functionExpression (self : Rec) : Parse Tree := do
  let start ← place
  let isAsync ← word? "async"
  word "function"
  return (← functionAfterWord self start isAsync false false).1

/-- A function as a statement. Where only one statement may stand, neither an asynchronous
function nor a generator may. -/
def functionStatement (self : Rec) (single needsName : Bool) : Parse Tree := do
  let start ← place
  let isAsync ← word? "async"
  word "function"
  let (tree, isGenerator) ← functionAfterWord self start isAsync true needsName
  flawIf (single && (isAsync || isGenerator))
  return tree

/-- `async function` stands here, on one line. -/
def atAsyncFunction : Parse Bool := do
  let next ← peek
  return (← atWord "async") && next.token == .word "function" true && !next.fresh

end Bundler.Script.Grammar
