import Bundler.Script.Grammar.Pattern

/-!
# Types

Types say nothing at run time, but the keys in them are expressions.
-/

namespace Bundler.Script.Grammar
open Parse

/-- Passes a `<`, also where it starts a longer sign. -/
def less? : Parse Bool := do
  match ← token with
  | .mark .less =>
    advance
    return true
  | .mark .lessEq | .mark .shiftL | .mark .shiftLAssign =>
    reread Lexeme.asLess
    advance
    return true
  | _ => return false

def atLess : Parse Bool := do
  match ← token with
  | .mark .less | .mark .lessEq | .mark .shiftL | .mark .shiftLAssign => return true
  | _ => return false

/-- Items up to a `>`, of which there is at least one. -/
def angled (item : Parse Tree) : Parse (List Tree) := do
  let (items, _) ← commas .greater item
  flawIf items.isEmpty
  mark .greater
  return items

/-- Types in angle brackets, if they stand here. -/
def typeArguments (self : Rec) : Parse (List Tree) := do
  if ← atLess then
    require (← less?)
    angled (self .type)
  else return []

/-- Words in front of a type parameter that are not its name. -/
def typeParameterModifiers : Parse (List Unit) :=
  many do
    match ← token with
    | .word "const" _ =>
      advance
      return some ()
    | .word "in" _ =>
      advance
      return some ()
    | .word "out" _ =>
      if Token.isWord (← peek).token then
        advance
        return some ()
      else return none
    | _ => return none

/-- One type parameter. -/
def typeParameter (self : Rec) : Parse Tree := do
  let start ← place
  let _ ← typeParameterModifiers
  let name ← identifier
  let limit ← if ← word? "extends" then pure [← self .type] else pure []
  let value ← if ← mark? .assign then pure [← self .type] else pure []
  node .other start (name :: limit ++ value)

/-- Type parameters in angle brackets, if they stand here. -/
def typeParameters (self : Rec) : Parse (List Tree) := do
  if !(← types) then return []
  if ← atLess then
    require (← less?)
    angled (typeParameter self)
  else return []

/-! ## Types of functions -/

/-- A name, a dot and further names. -/
def typeName : Parse Tree := do
  let start ← place
  let first ← anyWord
  let _ ← many do
    if ← atMark .dot then
      advance
      return some (← anyWord)
    else return none
  node .other start [first]

/-- `name is Type`, where a name and an `is` stand on one line. -/
def predicate? (self : Rec) : Parse (Option Tree) := do
  let next ← peek
  let subject := match ← token with
    | .word w _ => w == "this" || !isReserved w
    | _ => false
  if subject && next.token == .word "is" true && !next.fresh then
    let start ← place
    advance
    advance
    return some (← node .other start [← self .type])
  else return none

/-- `asserts name` with or without a type. -/
def assertion? (self : Rec) : Parse (Option Tree) := do
  let next ← peek
  let subject := match next.token with
    | .word w _ => w == "this" || !isReserved w
    | _ => false
  if (← atWord "asserts") && subject && !next.fresh then
    let start ← place
    advance
    advance
    let type ← if ← word? "is" then pure [← self .type] else pure []
    return some (← node .other start type)
  else return none

/-- The type of a result, which may say what a parameter is. -/
def resultType (self : Rec) : Parse Tree := do
  match ← assertion? self with
  | some tree => return tree
  | none =>
    match ← predicate? self with
    | some tree => return tree
    | none => self .type

/-- The type of a result after a colon, if it stands here. -/
def resultAnnotation (self : Rec) : Parse (List Tree) := do
  if ← types then
    if ← mark? .colon then
      return [← within (fun c => { c with allowIn := true, noConditional := false }) (resultType self)]
  return []

/-- Passes the start of a parameter. -/
def parameterStart (self : Rec) : Parse Bool := do
  let _ ← parameterModifiers
  match ← token with
  | .word w _ =>
    if w == "this" || !isReserved w then
      advance
      return true
    else return false
  | .mark .brackL | .mark .braceL =>
    let _ ← self .pattern
    return true
  | _ => return false

/-- An opening parenthesis starts a function type and no type in parentheses. -/
def startsFunctionType (self : Rec) : Parse Bool := ahead do
  advance
  match ← token with
  | .mark .parenR | .mark .dots => return true
  | _ =>
    if ← parameterStart self then
      match ← token with
      | .mark .colon | .mark .comma | .mark .question | .mark .assign => return true
      | .mark .parenR =>
        advance
        atMark .arrow
      | _ => return false
    else return false

/-- A function or constructor type starts here. -/
def atFunctionType (self : Rec) : Parse Bool := do
  match ← token with
  | .mark .less | .mark .shiftL => return true
  | .mark .parenL => startsFunctionType self
  | .word "new" _ => return true
  | .word "abstract" _ => return (← peek).token == .word "new" true
  | _ => return false

def functionType (self : Rec) : Parse Tree := do
  let start ← place
  let _ ← word? "abstract"
  let _ ← word? "new"
  let generics ← typeParameters self
  let inputs ← parameters self
  mark .arrow
  let result ← resultType self
  node .other start (generics ++ inputs ++ [result])

/-! ## Members of types -/

/-- Ends a member of a type. -/
def finishMember : Parse Unit := do
  if ← mark? .comma then return ()
  finish

/-- The types of a signature. -/
def signature (self : Rec) : Parse (List Tree) := do
  let generics ← typeParameters self
  let inputs ← parameters self
  return generics ++ inputs ++ (← resultAnnotation self)

/-- `[name: Type]` stands here, and no key in brackets. -/
def atIndex : Parse Bool := ahead do
  mark .brackL
  match ← token with
  | .mark .dots | .mark .brackR => return true
  | t =>
    if !Token.isIdentifier t then return false
    advance
    match ← token with
    | .mark .colon | .mark .comma => return true
    | .mark .question =>
      advance
      match ← token with
      | .mark .colon | .mark .comma | .mark .brackR => return true
      | _ => return false
    | _ => return false

/-- `[name: Type]` with the type of what it leads to. -/
def indexMember (self : Rec) : Parse Tree := do
  let start ← place
  mark .brackL
  let _ ← identifier
  mark .colon
  let from' ← self .type
  mark .brackR
  let value ← annotation self
  node .other start (from' :: value)

/-- One member of a type in braces. -/
def typeMember (self : Rec) : Parse Tree := do
  let start ← place
  let next := (← peek).token
  let nextKey := Token.startsKey next
  match ← token with
  | .mark .parenL | .mark .less =>
    let parts ← signature self
    finishMember
    node .other start parts
  | t =>
    if Token.isWord t && t == .word "new" true && (next == .mark .parenL || next == .mark .less) then
      advance
      let parts ← signature self
      finishMember
      node .other start parts
    else
      if t == .word "readonly" true && nextKey then advance
      if ← atIndex then
        let tree ← indexMember self
        finishMember
        return tree
      let accessor := (t == .word "get" true || t == .word "set" true) && nextKey
      if accessor then advance
      let (name, kind) ← key self
      match kind with
      | .hidden _ => flaw
      | _ => pure ()
      let _ ← mark? .question
      let parts ← do
        if (← atMark .parenL) || (← atMark .less) then signature self
        else
          require !accessor
          annotation self
      finishMember
      node .other start (name :: parts)

/-- Members in braces. -/
def typeMembers (self : Rec) : Parse (List Tree) := do
  mark .braceL
  let items ← many do
    if ← atMark .braceR then return none else return some (← typeMember self)
  mark .braceR
  return items

/-- A type made from the keys of another one stands here. -/
def atMapped : Parse Bool := ahead do
  advance
  match ← token with
  | .mark .plus | .mark .minus =>
    advance
    atWord "readonly"
  | _ =>
    let _ ← word? "readonly"
    mark .brackL
    require (← atIdentifier)
    advance
    atWord "in"

/-- A `?` or `readonly` with a sign in front, if one stands here. -/
def signed (p : Parse Bool) : Parse Unit := do
  match ← token with
  | .mark .plus | .mark .minus =>
    advance
    require (← p)
  | _ =>
    let _ ← p

def mappedType (self : Rec) : Parse Tree := do
  let start ← place
  mark .braceL
  signed (word? "readonly")
  mark .brackL
  let _ ← identifier
  word "in"
  let keys ← self .type
  let as ← if ← word? "as" then pure [← self .type] else pure []
  mark .brackR
  signed (mark? .question)
  let value ← annotation self
  let _ ← mark? .semicolon
  let _ ← mark? .comma
  mark .braceR
  node .other start (keys :: as ++ value)

/-! ## Single types -/

/-- One type of a tuple. -/
def tupleItem (self : Rec) : Parse Tree := do
  let start ← place
  let _ ← mark? .dots
  let named ← ahead do
    require (Token.isWord (← token))
    advance
    let _ ← mark? .question
    atMark .colon
  if named then
    advance
    let _ ← mark? .question
    mark .colon
  let type ← self .type
  let _ ← mark? .question
  node .other start [type]

/-- A template whose substitutions are types. -/
def templateType (self : Rec) : Parse Tree := do
  let start ← place
  let items ← many do
    match ← token with
    | .template _ false =>
      advance
      let type ← self .type
      require (← atMark .braceR)
      reread Lexeme.asTemplate
      return some type
    | _ => return none
  match ← token with
  | .template _ true =>
    advance
    node .other start items
  | _ => fail

/-- `import("x")` as a type, with what follows it. -/
def importType (self : Rec) : Parse Tree := do
  let start ← place
  word "import"
  mark .parenL
  let source ← self .type
  let options ← do
    if ← mark? .comma then
      if ← atMark .parenR then pure [] else
        let tree ← self (.assignment true)
        let _ ← mark? .comma
        pure [tree]
    else pure []
  mark .parenR
  if ← mark? .dot then
    let _ ← typeName
  let generics ← if ← fresh then pure [] else typeArguments self
  node .other start (source :: options ++ generics)

/-- The token can be the first one of a type, signs before numbers and parentheses apart. -/
def Token.startsType : Token → Bool
  | .text _ | .number | .template _ _ => true
  | .word w _ =>
    !isReserved w || ["void", "null", "this", "typeof", "new", "true", "false", "import", "function"].contains w
  | .mark m =>
    [Mark.braceL, .brackL, .less, .or, .and, .star, .question, .bang, .dots].contains m
  | _ => false

/-- A type can start after the token here. -/
def startsTypeNext : Parse Bool := ahead do
  advance
  let opened ← many do
    if ← mark? .parenL then return some () else return none
  match ← token with
  | .mark .minus =>
    advance
    return (← token) == .number
  | .mark .parenR => return !opened.isEmpty
  | t => return Token.startsType t

/-- A `?` or a `!` before a type says whether it has an empty value. A `?` alone is a type too. -/
def markedType (self : Rec) : Parse Tree := do
  let start ← place
  let asks ← atMark .question
  advance
  match ← token with
  | .mark m =>
    if asks && [Mark.comma, .braceR, .parenR, .greater, .assign, .or].contains m then node .other start []
    else node .other start [← self .type]
  | _ => node .other start [← self .type]

/-- A type without operators. -/
def singleType (self : Rec) : Parse Tree := do
  let start ← place
  match ← token with
  | .mark .braceL =>
    if ← atMapped then mappedType self
    else node .other start (← typeMembers self)
  | .mark .brackL => node .other start (← enclosed .brackL .brackR (tupleItem self))
  | .mark .parenL =>
    advance
    let type ← within (fun c => { c with noConditional := false }) (self .type)
    mark .parenR
    node .other start [type]
  | .mark .minus =>
    advance
    match ← token with
    | .number =>
      advance
      node .other start []
    | _ => fail
  | .mark .question | .mark .bang => markedType self
  | .text _ | .number => leaf .other
  | .template _ _ => templateType self
  | .word w _ =>
    if w == "import" then importType self
    else if w == "typeof" then
      keyword
      let name ← if ← atWord "import" then importType self else typeName
      let generics ← if ← fresh then pure [] else typeArguments self
      node .other start (name :: generics)
    else if w == "this" then
      match ← predicate? self with
      | some tree => return tree
      | none => leaf .other
    else if ["null", "void", "true", "false"].contains w then leaf .other
    else
      match ← assertion? self with
      | some tree => return tree
      | none =>
        let name ← typeName
        let generics ← if ← fresh then pure [] else typeArguments self
        node .other start (name :: generics)
  | _ => fail

/-- A type with brackets, a `?` or a `!` after it. -/
def bracketType (self : Rec) : Parse Tree := do
  let start ← place
  let type ← singleType self
  within (fun c => { c with noConditional := false }) <| type |> fold fun type => do
    if ← fresh then return none
    match ← token with
    | .mark .brackL =>
      advance
      let index ← if ← atMark .brackR then pure [] else pure [← self .type]
      mark .brackR
      return some (← node .other start (type :: index))
    | .mark .bang =>
      advance
      return some type
    | .mark .question =>
      if ← startsTypeNext then return none
      advance
      return some type
    | _ => return none

/-- `infer Name`, with a limit where no conditional type can start. -/
def inferType (self : Rec) : Parse Tree := do
  let start ← place
  keyword
  let _ ← identifier
  let limit ← attempt do
    word "extends"
    let type ← within (fun c => { c with noConditional := true }) (self .type)
    let c ← context
    require (c.noConditional || !(← atMark .question))
    return type
  node .other start limit.toList

/-- A type with the words that work on it. -/
def wordType (self : Rec) : Parse Tree := do
  let words ← many do
    match ← token with
    | .word w true =>
      if ["keyof", "unique", "readonly"].contains w then
        let next := (← peek).token
        let operand := match next with
          | .word "extends" _ | .word "is" _ => false
          | .word _ _ | .text _ | .number | .template _ _ => true
          | .mark .braceL | .mark .brackL | .mark .parenL | .mark .minus => true
          | _ => false
        if operand then
          advance
          return some ()
        else return none
      else return none
    | _ => return none
  let infers := (← atWord "infer") && Token.isIdentifier (← peek).token
  let _ := words
  if infers then inferType self else bracketType self

/-- Types with one operator between them. -/
def typeRow (operator : Mark) (item : Parse Tree) : Parse Tree := do
  let start ← place
  let _ ← mark? operator
  let first ← item
  let others ← many do
    if ← mark? operator then return some (← item) else return none
  if others.isEmpty then return first else node .other start (first :: others)

/-- An operand of `&` or `|`. A function type stands there only in parentheses. -/
def typeOperand (self : Rec) : Parse Tree := do
  if ← atFunctionType self then
    flaw
    functionType self
  else wordType self

def unionType (self : Rec) : Parse Tree := typeRow .or (typeRow .and (typeOperand self))

/-- A type. -/
def type (self : Rec) : Parse Tree := do
  let start ← place
  if ← atFunctionType self then functionType self
  else
    let type ← unionType self
    let c ← context
    if c.noConditional || (← fresh) || !(← atWord "extends") then return type
    advance
    let test ← within (fun c => { c with noConditional := true }) (self .type)
    mark .question
    let yes ← within (fun c => { c with noConditional := false }) (self .type)
    mark .colon
    let no ← within (fun c => { c with noConditional := false }) (self .type)
    node .other start [type, test, yes, no]

/-! ## Type arguments of expressions -/

/-- After type arguments of an expression, the token can go on with it. -/
def canFollowGenerics : Parse Bool := do
  let l ← lexeme
  match l.token with
  | .mark .parenL | .template _ _ => return true
  | .mark .less | .mark .greater | .mark .plus | .mark .minus => return false
  | .word w _ =>
    let operator := ["in", "instanceof", "as", "satisfies"].contains w
    let operand := ["this", "super", "null", "true", "false", "function", "class", "new",
      "import", "typeof", "void", "delete"].contains w
    return l.fresh || operator || (isReserved w && !operand)
  | .mark m =>
    let operator := [Mark.questionDot, .equal, .unequal, .identical, .distinct, .lessEq, .shiftL,
      .star, .slash, .percent, .power, .and, .or, .xor, .andAnd, .orOr, .nullish].contains m
    let opening := [Mark.braceL, .brackL, .bang, .tilde, .plusPlus, .minusMinus, .at].contains m
    return l.fresh || operator || !opening
  | .text _ | .number | .hidden _ | .regex => return l.fresh
  | _ => return true

/-- Type arguments of an expression, where what follows them cannot be an operand. -/
def expressionGenerics? (self : Rec) : Parse (Option (List Tree)) := do
  if !(← types) then return none
  match ← token with
  | .mark .less | .mark .shiftL =>
    attempt do
      require (← less?)
      let (items, _) ← commas .greater (self .type)
      flawIf items.isEmpty
      require (← atMark .greater)
      reread Lexeme.asGreater
      mark .greater
      require (← canFollowGenerics)
      return items
  | _ => return none

end Bundler.Script.Grammar
