import Bundler.Script.Grammar.Arrow
import Bundler.Script.Grammar.Element
import Bundler.Script.Grammar.Target

/-!
# Expressions

From the operands that bind most to the row of expressions with commas between them.
-/

namespace Bundler.Script.Grammar
open Parse

/-! ## Operands without operators -/

/-- An expression in parentheses, or several with commas between them. -/
def parenthesized (self : Rec) : Parse Tree := within Context.open do
  let start ← place
  mark .parenL
  let first ← place
  let (items, comma) ← commas .parenR (self (.assignment true))
  require (!comma && !items.isEmpty)
  let inner ← match items with
    | [tree] => pure tree
    | trees => node .other first trees
  mark .parenR
  node .parens start [inner]

/-- A regular expression in place of a slash. -/
def patternLiteral : Parse Tree := do
  reread Lexeme.asPattern
  match ← token with
  | .regex => leaf .other
  | _ => fail

/-- An operand that stands for itself. -/
def primary (self : Rec) : Parse Tree := do
  match ← token with
  | .text v => leaf (.text v)
  | .number => leaf .other
  | .template _ _ => templateLiteral self false
  | .mark .brackL => arrayLiteral self
  | .mark .braceL => objectLiteral self
  | .mark .parenL => parenthesized self
  | .mark .slash | .mark .slashAssign => patternLiteral
  | .mark .at => classExpression self
  | .word w _ =>
    if w == "function" then functionExpression self
    else if w == "class" then classExpression self
    else if ["this", "null", "true", "false"].contains w then
      let start ← place
      keyword
      node .other start []
    else if ← atAsyncFunction then functionExpression self
    else identifier
  | _ => fail

/-- `super`, which a member or call follows. -/
def superWord : Parse Tree := do
  let start ← place
  word "super"
  match ← token with
  | .mark .dot | .mark .brackL | .mark .parenL => pure ()
  | _ => flaw
  node .other start []

/-- A call of `import`, with one or two arguments. -/
def importCall (self : Rec) (start : Nat) : Parse Tree := within Context.open do
  mark .parenL
  let source ← self (.assignment true)
  let options ← do
    if ← mark? .comma then
      if ← atMark .parenR then pure []
      else
        let tree ← self (.assignment true)
        let _ ← mark? .comma
        pure [tree]
    else pure []
  mark .parenR
  node .importCall start (source :: options)

/-- What starts with the word `import` in an expression. -/
def importWord (self : Rec) : Parse Tree := do
  let start ← place
  word "import"
  if ← mark? .dot then
    if ← word? "meta" then node .other start []
    else
      if !(← word? "source") then word "defer"
      importCall self start
  else importCall self start

/-! ## Members -/

/-- An operand with the members taken from it, and whether an optional link was among them. -/
structure Linked where
  tree : Tree
  optional : Bool := false

/-- A name after a dot. -/
def memberName : Parse Tree := do
  match ← token with
  | .hidden _ => hiddenName
  | _ => anyWord

/-- An expression in brackets after an operand. -/
def memberIndex (self : Rec) : Parse Tree := within Context.open do
  mark .brackL
  let tree ← self .expression
  mark .brackR
  return tree

/-- A template after an operand. No optional link leads to it. -/
def taggedTemplate (self : Rec) (start : Nat) (l : Linked) (generics : List Tree) : Parse Linked := do
  flawIf l.optional
  let text ← templateLiteral self true
  return { l with tree := ← node .other start (l.tree :: generics ++ [text]) }

/-- An expression with type arguments, and the arguments apart. -/
def Linked.split (l : Linked) : Tree × List Tree :=
  match l.tree with
  | .node .applied _ _ (tree :: generics) => (tree, generics)
  | tree => (tree, [])

/-- A member of a kind that an optional link does or does not lead to. -/
def Linked.shape (l : Linked) : Shape := if l.optional then .chain else .member

/-- One more member, template, sign or type argument after an operand. -/
def memberStep (self : Rec) (start : Nat) (l : Linked) : Parse (Option Linked) := do
  let c ← context
  match ← token with
  | .mark .dot =>
    advance
    let name ← memberName
    return some { l with tree := ← node l.shape start [l.tree, name] }
  | .mark .brackL =>
    if c.decorating then return none
    let index ← memberIndex self
    return some { l with tree := ← node l.shape start [l.tree, index] }
  | .mark .questionDot =>
    match (← peek).token with
    | .mark .brackL =>
      advance
      let index ← memberIndex self
      return some ⟨← node .chain start [l.tree, index], true⟩
    | .word _ _ | .hidden _ =>
      advance
      let name ← memberName
      return some ⟨← node .chain start [l.tree, name], true⟩
    | _ => return none
  | .mark .bang =>
    if !c.dialect.types || (← fresh) then return none
    advance
    return some { l with tree := ← node .cast start [l.tree] }
  | .template _ _ =>
    let (tree, generics) := l.split
    return some (← taggedTemplate self start { l with tree := tree } generics)
  | .mark .less | .mark .shiftL =>
    match ← expressionGenerics? self with
    | some generics => return some { l with tree := ← node .applied start (l.tree :: generics) }
    | none => return none
  | _ => return none

/-- The members taken from an operand. -/
def members (self : Rec) (start : Nat) (l : Linked) : Parse Linked := fold (memberStep self start) l

/-- Several words `new`, from the inside out. -/
structure News where
  starts : List Nat
  target : Option Tree

/-- The words `new` in front of an operand; `new.target` is an operand itself. -/
def newWords : Parse News :=
  ⟨[], none⟩ |> fold fun news => do
    if news.target.isSome || !(← atWord "new") then return none
    let start ← place
    keyword
    if ← mark? .dot then
      word "target"
      return some { news with target := some (← node .other start []) }
    else return some { news with starts := start :: news.starts }

/-- An operand before any member is taken from it. -/
def base (self : Rec) : Parse Tree := do
  match ← token with
  | .word "super" _ => superWord
  | .word "import" _ => importWord self
  | _ => primary self

/-- `new` before an operand: its arguments, if any, and what is taken from the result. -/
def newStep (self : Rec) (l : Linked) (start : Nat) : Parse Linked := do
  flawIf (l.optional || l.tree.shape == .importCall)
  let (tree, generics) := l.split
  let inputs ← if ← atMark .parenL then arguments self else pure []
  let made ← node .other start (tree :: generics ++ inputs)
  members self start { tree := made }

/-- An operand with the members taken from it, and the words `new` in front of it. -/
def membered (self : Rec) : Parse Linked := do
  let news ← newWords
  let start ← place
  let first ← match news.target with
    | some tree => pure tree
    | none => base self
  let first ← members self (if news.target.isSome then first.start else start) { tree := first }
  news.starts.foldlM (newStep self) first

/-- One more call after an operand. -/
def callStep (self : Rec) (start : Nat) (l : Linked) : Parse (Option Linked) := do
  if ← atMark .questionDot then
    match (← peek).token with
    | .mark .parenL | .mark .less | .mark .shiftL | .template _ _ => do
      advance
      let generics ← expressionGenerics? self
      let l := { l with optional := true }
      match ← token with
      | .template _ _ => return some (← taggedTemplate self start l (generics.getD []))
      | _ =>
        let (tree, earlier) := l.split
        let generics := generics.getD earlier
        let inputs ← arguments self
        let l := ⟨← node (.call generics.length) start (tree :: generics ++ inputs), true⟩
        return some (← members self start l)
    | _ => fail
  else if ← atMark .parenL then
    let (tree, generics) := l.split
    let inputs ← arguments self
    let made ← node (.call generics.length) start (tree :: generics ++ inputs)
    return some (← members self start { l with tree := made })
  else return none

/-- An expression without operators. -/
def leftHand (self : Rec) : Parse Tree := do
  let start ← place
  let l ← membered self
  return (← fold (callStep self start) l).tree

/-! ## Operators in front and behind -/

/-- The expression is a name or member that can be changed. -/
def changed (tree : Tree) : Parse Unit := simpleTarget tree

/-- An element starts here. -/
def atElement : Parse Bool := do
  let c ← context
  if !c.dialect.elements || !(← atMark .less) then return false
  match (← peek).token with
  | .word _ _ | .mark .greater => return true
  | _ => return false

/-- A name or member with a sign that changes it in front or behind, or any other operand. -/
def updated (self : Rec) : Parse Tree := do
  let start ← place
  match ← token with
  | .mark .plusPlus | .mark .minusMinus =>
    advance
    let tree ← leftHand self
    changed tree
    node .other start [tree]
  | _ =>
    if ← atElement then tagged self false
    else
      let tree ← leftHand self
      match ← token with
      | .mark .plusPlus | .mark .minusMinus =>
        if ← fresh then return tree
        changed tree
        advance
        node .other start [tree]
      | _ => return tree

/-- After `await` or `yield` where it is no operator, the next token shows that it was meant as
one. -/
def operandFollows : Parse Bool := do
  let next ← peek
  match next.token with
  | .word w _ => return !next.fresh && w != "in" && w != "instanceof"
  | .number | .text _ => return !next.fresh
  | _ => return false

def atAwait : Parse Bool := do
  if !(← atWord "await") then return false
  if (← context).awaits then return true
  operandFollows

/-- A type in front of an operand. -/
def atTypeCast : Parse Bool := do
  let c ← context
  return c.dialect.types && !c.dialect.elements && (← atMark .less)

/-- An operand with the operators in front of it. -/
def operand (self : Rec) : Parse Tree := do
  let start ← place
  match ← token with
  | .mark .plus | .mark .minus | .mark .tilde | .mark .bang =>
    advance
    node .unary start [← self .operand]
  | .word "delete" _ | .word "typeof" _ | .word "void" _ =>
    keyword
    node .unary start [← self .operand]
  | _ =>
    if ← atAwait then
      flawIf !(← context).awaits
      keyword
      node .unary start [← within (fun c => { c with awaits := true }) (self .operand)]
    else if ← atTypeCast then
      advance
      let type ← self .type
      mark .greater
      node .assertion start [type, ← self .operand]
    else updated self

/-! ## Operators between operands -/

/-- How much an operator binds, and whether it binds to the right. -/
structure Binding where
  level : Nat
  rightward : Bool := false

/-- The operators between two operands. -/
def binding? : Token → Option Binding
  | .mark .nullish => some ⟨1, false⟩
  | .mark .orOr => some ⟨2, false⟩
  | .mark .andAnd => some ⟨3, false⟩
  | .mark .or => some ⟨4, false⟩
  | .mark .xor => some ⟨5, false⟩
  | .mark .and => some ⟨6, false⟩
  | .mark .equal | .mark .unequal | .mark .identical | .mark .distinct => some ⟨7, false⟩
  | .mark .less | .mark .greater | .mark .lessEq | .mark .greaterEq => some ⟨8, false⟩
  | .word "in" _ | .word "instanceof" _ => some ⟨8, false⟩
  | .mark .shiftL | .mark .shiftR | .mark .shiftRR => some ⟨9, false⟩
  | .mark .plus | .mark .minus => some ⟨10, false⟩
  | .mark .star | .mark .slash | .mark .percent => some ⟨11, false⟩
  | .mark .power => some ⟨12, true⟩
  | _ => none

/-- The level of `as` and `satisfies`. -/
def castLevel : Nat := 8

/-- The operators bind here, where only those of a higher level may. -/
def Binding.holds (b : Binding) (level : Nat) : Bool :=
  if b.rightward then level ≤ b.level else level < b.level

def shapeOf : Token → Shape
  | .mark .orOr | .mark .andAnd => .logical
  | .mark .nullish => .nullish
  | _ => .other

/-- `??` does not stand beside `&&` or `||` without parentheses. -/
def checkMixed (shape : Shape) (left right : Tree) : Parse Unit :=
  match shape with
  | .nullish => flawIf (left.shape == .logical || right.shape == .logical)
  | .logical => flawIf (left.shape == .nullish || right.shape == .nullish)
  | _ => pure ()

/-- `as` or `satisfies` with a type. -/
def castStep (self : Rec) (start : Nat) (left : Tree) : Parse Tree := do
  keyword
  let type ← do
    if ← atWord "const" then leaf .other else self .type
  node .cast start [left, type]

/-- One more operator with its right operand. -/
def operationStep (self : Rec) (start level : Nat) (left : Tree) : Parse (Option Tree) := do
  if ← atMark .greater then reread Lexeme.asGreater
  let c ← context
  let sign ← token
  let casts := match sign with
    | .word w _ => c.dialect.types && (w == "as" || w == "satisfies")
    | _ => false
  if casts then
    if (← fresh) || castLevel ≤ level then return none
    return some (← castStep self start left)
  match binding? sign with
  | none => return none
  | some b =>
    if !b.holds level then return none
    if sign == .word "in" true && !c.allowIn then return none
    match sign with
    | .word _ _ => keyword
    | _ => advance
    flawIf (b.rightward && (left.shape == .unary || left.shape == .assertion))
    let right ← self (.operation b.level)
    let shape := shapeOf sign
    checkMixed shape left right
    return some (← node shape start [left, right])

/-- The first operand; a hidden name is one only before `in`. -/
def firstOperand (self : Rec) : Parse Tree := do
  match ← token with
  | .hidden _ =>
    let tree ← hiddenName
    require ((← context).allowIn && (← atWord "in"))
    return tree
  | _ => operand self

/-- Operands with operators that bind more than a level. -/
def operation (self : Rec) (level : Nat) : Parse Tree := do
  let start ← place
  let first ← firstOperand self
  fold (operationStep self start level) first

/-! ## Assignments -/

/-- `yield` is an operator here. -/
def atYield : Parse Bool := do
  if !(← atWord "yield") then return false
  if (← context).yields then return true
  operandFollows

def yieldExpression (self : Rec) : Parse Tree := do
  let start ← place
  flawIf !(← context).yields
  keyword
  if ← fresh then node .other start []
  else if ← mark? .star then node .other start [← self (.assignment true)]
  else
    match ← token with
    | .mark .colon | .mark .parenR | .mark .brackR | .mark .braceR | .mark .comma
    | .mark .semicolon | .stop | .word "in" _ | .word "of" _ => node .other start []
    | _ => node .other start [← self (.assignment true)]

/-- The choice of one of two expressions, if a question mark stands here. -/
def choice (self : Rec) (start : Nat) (test : Tree) (arrowType : Bool) : Parse Tree := do
  if ← mark? .question then
    let yes ← within (fun c => { c with allowIn := true }) (self (.assignment false))
    mark .colon
    let no ← self (.assignment arrowType)
    node .other start [test, yes, no]
  else return test

/-- The sign assigns, and whether it is `=`. -/
def assignment? : Token → Option Bool
  | .mark .assign => some true
  | .mark .compound | .mark .slashAssign | .mark .shiftLAssign => some false
  | _ => none

/-- One expression without a comma. -/
def assignment (self : Rec) (arrowType : Bool) : Parse Tree := do
  if ← atYield then yieldExpression self
  else
    match ← parenthesizedArrow? self arrowType with
    | some tree => return tree
    | none =>
      match ← asyncArrow? self arrowType with
      | some tree => return tree
      | none =>
        let start ← place
        let left ← operation self 0
        match left.shape, ← token with
        | .name _, .mark .arrow => simpleArrow self start left false arrowType
        | _, sign =>
          match assignment? sign with
          | some plain =>
            if plain then target left else simpleTarget left
            advance
            let right ← self (.assignment arrowType)
            node (.assign plain) start [left, right]
          | none => choice self start left arrowType

/-- Expressions with commas between them. -/
def expression (self : Rec) : Parse Tree := do
  let start ← place
  let first ← self (.assignment true)
  let others ← many do
    if ← mark? .comma then return some (← self (.assignment true)) else return none
  if others.isEmpty then return first else node .other start (first :: others)

end Bundler.Script.Grammar
