import Bundler.Regex.Pattern

/-!
# Reading patterns
-/

namespace Bundler.Regex

/-- What is wrong with a pattern. -/
inductive Problem where
  | badClassEscape
  | badClassRange
  | classRangeNoLiteral
  | openClass
  | decimalTooLarge
  | hexEmpty
  | badHex
  | badHexDigit
  | endInEscape
  | unknownEscape
  | danglingNegation
  | duplicateFlag
  | repeatedNegation
  | endInFlags
  | unknownFlag
  | duplicateName
  | emptyName
  | badName
  | endInName
  | openGroup
  | closedGroup
  | tooDeep
  | badCount
  | emptyCount
  | openCount
  | nothingToRepeat
  | badEdge
  | openEdge
  | endInEdge
  | badProperty
  | noProperty
  | backReference
  | lookAround
  | noUnicode
  | notText
deriving DecidableEq, Repr

namespace Problem

def message : Problem → String
  | badClassEscape => "invalid escape sequence found in character class"
  | badClassRange => "invalid character class range, the start must be <= the end"
  | classRangeNoLiteral => "invalid range boundary, must be a literal"
  | openClass => "unclosed character class"
  | decimalTooLarge => "decimal literal invalid"
  | hexEmpty => "hexadecimal literal empty"
  | badHex => "hexadecimal literal is not a Unicode scalar value"
  | badHexDigit => "invalid hexadecimal digit"
  | endInEscape => "incomplete escape sequence, reached end of pattern prematurely"
  | unknownEscape => "unrecognized escape sequence"
  | danglingNegation => "dangling flag negation operator"
  | duplicateFlag => "duplicate flag"
  | repeatedNegation => "flag negation operator repeated"
  | endInFlags => "expected flag but got end of regex"
  | unknownFlag => "unrecognized flag"
  | duplicateName => "duplicate capture group name"
  | emptyName => "empty capture group name"
  | badName => "invalid capture group character"
  | endInName => "unclosed capture group name"
  | openGroup => "unclosed group"
  | closedGroup => "unopened group"
  | tooDeep => "exceed the maximum number of nested parentheses/brackets (250)"
  | badCount => "invalid repetition count range, the start must be <= the end"
  | emptyCount => "repetition quantifier expects a valid decimal"
  | openCount => "unclosed counted repetition"
  | nothingToRepeat => "repetition operator missing expression"
  | badEdge =>
    "unrecognized special word boundary assertion, valid choices are: " ++
      "start, end, start-half or end-half"
  | openEdge => "special word boundary assertion is either unclosed or contains an invalid character"
  | endInEdge =>
    "found either the beginning of a special word boundary or a bounded repetition on a \\b with " ++
      "an opening brace, but no closing brace"
  | badProperty => "invalid Unicode character class"
  | noProperty => "Unicode property not found"
  | backReference => "backreferences are not supported"
  | lookAround => "look-around, including look-ahead and look-behind, is not supported"
  | noUnicode => "Unicode not allowed here"
  | notText => "pattern can match invalid UTF-8"

end Problem

/-- What holds from a place in a pattern on. -/
structure Flags where
  ignoreCase : Bool := false
  multiLine : Bool := false
  dotAll : Bool := false
  swapGreed : Bool := false
  unicode : Bool := true
  crlf : Bool := false
  spaced : Bool := false
deriving DecidableEq, Repr

/-- What is left of a pattern, and what was seen in it. -/
structure State where
  rest : List Char
  flags : Flags := {}
  groups : Nat := 0
  names : List (String × Nat) := []

/-- A reader of a part of a pattern. -/
abbrev Parser (α : Type) : Type := StateT State (Except Problem) α

namespace Parser

/-! ## Characters -/

def peek : Parser (Option Char) := do return (← get).rest.head?

def setRest (rest : List Char) : Parser Unit := modify ({ · with rest := rest })

def bump : Parser Unit := do setRest (← get).rest.tail

/-- A text without the blanks and comments in front of it. -/
def dropSpace : Bool → List Char → List Char
  | _, [] => []
  | true, c :: rest => dropSpace (c != '\n') rest
  | false, c :: rest =>
    if CharSet.spaces.contains c.toNat then dropSpace false rest
    else if c = '#' then dropSpace true rest
    else c :: rest

/-- Where blanks do not count, passes over them. -/
def skipSpace : Parser Unit := do
  if (← get).flags.spaced then setRest (dropSpace false (← get).rest)

def bumpSpace : Parser Unit := do
  bump
  skipSpace

/-- Takes a text if it comes next. -/
def take? (text : String) : Parser Bool := do
  let rest := (← get).rest
  if text.toList.isPrefixOf rest then
    setRest (rest.drop text.length)
    return true
  else return false

/-- The next character. -/
def need (problem : Problem) : Parser Char := do
  match ← peek with
  | some c => return c
  | none => throw problem

/-- Reads as long as there is something to read, at most so often. -/
def foldUpTo (p : α → Parser (Option α)) : Nat → α → Parser α
  | 0, a => return a
  | n + 1, a => do
    match ← p a with
    | some a => foldUpTo p n a
    | none => return a

/-- Reads as long as there is something to read. -/
def fold (p : α → Parser (Option α)) (a : α) : Parser α := do
  foldUpTo p ((← get).rest.length + 1) a

/-! ## Sets -/

/-- A set with what else it takes in where case is ignored. -/
def cased (set : CharSet) : Parser CharSet := do
  let flags := (← get).flags
  if !flags.ignoreCase then return set
  else if flags.unicode then return set.fold
  else return set.foldAscii

/-- A set, or all that is not in it. Where Unicode is off, sets are sets of bytes, and those that
are no characters may not be in one. -/
def negatedIf (negated : Bool) (set : CharSet) : Parser CharSet := do
  if (← get).flags.unicode then
    return if negated then set.complement else set
  else
    let set := if negated then set.complementTo 0xFF else set
    if set.isAscii then return set else throw .notText

def closed (negated : Bool) (set : CharSet) : Parser CharSet := do negatedIf negated (← cased set)

/-- The set for one character. -/
def charSet (c : Char) : Parser CharSet := do
  let flags := (← get).flags
  if !flags.ignoreCase then return .single c
  else if flags.unicode then return .ofRanges ((Text.caseVariants c.toNat).map fun n => (n, n))
  else return (CharSet.single c).foldAscii

/-! ## Escapes -/

/-- What stands for itself or for a set. -/
inductive Atom where
  /-- A character; `byte` says whether it is written as the number of a byte. -/
  | char (c : Char) (byte : Bool)
  | set (chars : CharSet)
  | look (condition : Look)

def hexValue? (c : Char) : Option Nat :=
  if '0' ≤ c && c ≤ '9' then some (c.toNat - '0'.toNat)
  else if 'a' ≤ c && c ≤ 'f' then some (c.toNat - 'a'.toNat + 10)
  else if 'A' ≤ c && c ≤ 'F' then some (c.toNat - 'A'.toNat + 10)
  else none

def scalar (n : Nat) : Parser Char :=
  if h : n.isValidChar then return Char.ofNatAux n h else throw .badHex

/-- So many hexadecimal digits. -/
def hexDigits : Nat → Nat → Parser Nat
  | 0, value => return value
  | n + 1, value => do
    let c ← need .endInEscape
    match hexValue? c with
    | some d =>
      bumpSpace
      hexDigits n (value * 16 + d)
    | none => throw .badHexDigit

/-- Hexadecimal digits up to a closing brace. -/
def hexBraced : Parser Char := do
  bumpSpace
  let digits ← ([] : List Nat) |> fold fun digits => do
    let c ← need .endInEscape
    if c = '\x7d' then return none
    match hexValue? c with
    | some d =>
      bumpSpace
      return some (d :: digits)
    | none => throw .badHexDigit
  bumpSpace
  if digits.isEmpty then throw .hexEmpty
  else scalar (digits.reverse.foldl (fun value d => value * 16 + d) 0)

/-- The character that a letter and its hexadecimal digits stand for. -/
def hexEscape (letter : Char) : Parser Atom := do
  bumpSpace
  if (← need .endInEscape) = '\x7b' then return .char (← hexBraced) false
  else
    let count := if letter = 'x' then 2 else if letter = 'u' then 4 else 8
    return .char (← scalar (← hexDigits count 0)) (letter == 'x')

/-- A text cut at the first place where another one stands in it. -/
def cutAt (mark : List Char) : List Char → Option (List Char × List Char)
  | [] => none
  | c :: rest =>
    if mark.isPrefixOf (c :: rest) then some ([], (c :: rest).drop mark.length)
    else (cutAt mark rest).map fun (before, after) => (c :: before, after)

/-- The set that the text between the braces stands for, and whether it is turned around. -/
def propertySet? (name : List Char) : Option CharSet × Bool :=
  let value (before after : List Char) : Option CharSet :=
    CharSet.ofValue? (String.ofList before) (String.ofList after)
  match cutAt ['!', '='] name with
  | some (before, after) => (value before after, true)
  | none =>
    match cutAt [':'] name with
    | some (before, after) => (value before after, false)
    | none =>
      match cutAt ['='] name with
      | some (before, after) => (value before after, false)
      | none => (CharSet.ofName? (String.ofList name), false)

/-- The name between braces. -/
def braced : Parser (List Char) := do
  bumpSpace
  let name ← ([] : List Char) |> fold fun name => do
    let c ← need .endInEscape
    if c = '\x7d' then return none
    bumpSpace
    return some (c :: name)
  bump
  return name.reverse

/-- The characters with a property. -/
def propertyEscape (negated : Bool) : Parser Atom := do
  bumpSpace
  let c ← need .endInEscape
  let (set?, turned) ← do
    if c = '\x7b' then pure (propertySet? (← braced))
    else if c = '\\' then throw .badProperty
    else
      bumpSpace
      pure (CharSet.category? (CharSet.lookupName (String.singleton c)), false)
  if !(← get).flags.unicode then throw .noUnicode
  match set? with
  | some set => return .set (← closed (negated != turned) set)
  | none => throw .noProperty

/-- The set for a letter. -/
def letterSet (letter : Char) : Parser CharSet := do
  let unicode := (← get).flags.unicode
  let set :=
    match letter.toLower with
    | 'd' => if unicode then CharSet.digits else CharSet.asciiDigits
    | 's' => if unicode then CharSet.spaces else CharSet.asciiSpaces
    | _ => if unicode then CharSet.words else CharSet.asciiWords
  negatedIf letter.isUpper set

/-- The characters that words are made of. -/
def wordSet : Parser CharSet := do
  return if (← get).flags.unicode then CharSet.words else CharSet.asciiWords

def isEdgeLetter (c : Char) : Bool := c.isAlpha || c = '-'

/-- The condition after `\b`, where a brace with letters may follow. -/
def edge : Parser Look := do
  let words ← wordSet
  if (← peek) != some '\x7b' then return .edge words
  else
    let before := (← get).rest
    bumpSpace
    let c ← need .endInEdge
    if !isEdgeLetter c then
      setRest before
      return .edge words
    else
      let name ← ([] : List Char) |> fold fun name => do
        match ← peek with
        | some c =>
          if isEdgeLetter c then
            bumpSpace
            return some (c :: name)
          else return none
        | none => return none
      if (← peek) != some '\x7d' then throw .openEdge
      else
        bump
        match String.ofList name.reverse with
        | "start" => return .wordStart words
        | "end" => return .wordEnd words
        | "start-half" => return .noWordBefore words
        | "end-half" => return .noWordAfter words
        | _ => throw .badEdge

/-- A sign that stands for itself after a backslash. -/
def isEscapable (c : Char) : Bool :=
  c.toNat < 0x80 && !c.isAlphanum && c != '<' && c != '>'

/-- What a backslash and what follows it stand for. -/
def escape : Parser Atom := do
  bump
  let c ← need .endInEscape
  if c.isDigit then throw .backReference
  else if c = 'x' || c = 'u' || c = 'U' then hexEscape c
  else if c = 'p' || c = 'P' then propertyEscape (c == 'P')
  else
    bump
    if c = 'd' || c = 's' || c = 'w' || c = 'D' || c = 'S' || c = 'W' then
      return .set (← letterSet c)
    else if isEscapable c then return .char c false
    else
      match c with
      | 'a' => return .char (Char.ofNat 7) false
      | 'f' => return .char (Char.ofNat 12) false
      | 't' => return .char '\t' false
      | 'n' => return .char '\n' false
      | 'r' => return .char '\r' false
      | 'v' => return .char (Char.ofNat 11) false
      | 'A' => return .look .startText
      | 'z' => return .look .endText
      | 'b' => return .look (← edge)
      | 'B' => return .look (.noEdge (← wordSet))
      | '<' => return .look (.wordStart (← wordSet))
      | '>' => return .look (.wordEnd (← wordSet))
      | _ => throw .unknownEscape

/-! ## Sets in brackets -/

/-- How two sets are put together. -/
inductive SetOp where
  | inter
  | diff
  | symDiff

/-- A set so far: what the operator before it takes on its left, and what stands since. -/
structure Gathering where
  left : Option (CharSet × SetOp) := none
  since : CharSet := .empty

def Gathering.add (g : Gathering) (set : CharSet) : Gathering := { g with since := g.since.union set }

/-- What a gathering comes to. -/
def gathered (g : Gathering) : Parser CharSet := do
  match g.left with
  | none => return g.since
  | some (left, op) =>
    let left ← cased left
    let right ← cased g.since
    return match op with
      | .inter => left.inter right
      | .diff => left.diff right
      | .symDiff => left.symDiff right

/-- A single item of a set. -/
def classItem : Parser Atom := do
  let c ← need .openClass
  if c = '\\' then escape
  else
    bump
    return .char c false

/-- The character that an end of a range stands for. Where Unicode is off, it is a byte. -/
def classChar : Atom → Parser Char
  | .char c byte => do
    if (← get).flags.unicode || c.toNat < 0x80 then return c
    else throw (if byte then .notText else .noUnicode)
  | _ => throw .classRangeNoLiteral

def atomSet : Atom → Parser CharSet
  | .char c byte => do return .single (← classChar (.char c byte))
  | .set chars => return chars
  | .look _ => throw .badClassEscape

/-- An item, or the range from one to another. -/
def classRange : Parser CharSet := do
  let first ← classItem
  skipSpace
  let c ← need .openClass
  let after := do
    let state ← get
    bumpSpace
    let c ← peek
    set state
    return c
  if c != '-' then atomSet first
  else if [some ']', some '-'].contains (← after) then atomSet first
  else
    bumpSpace
    let _ ← need .openClass
    let second ← classItem
    match first, second with
    | .char a _, .char b _ =>
      let low ← classChar first
      let high ← classChar second
      if b.toNat < a.toNat then throw .badClassRange
      else return ⟨[(low.toNat, high.toNat)]⟩
    | _, _ => throw .classRangeNoLiteral

/-- The name of an ASCII class with its colons and bracket. -/
def posixClass? : Parser (Option CharSet) := do
  let before := (← get).rest
  let back : Parser (Option CharSet) := do
    setRest before
    return none
  bump
  if (← peek) != some ':' then back
  else
    bump
    let negated := (← peek) == some '^'
    if negated then bump
    let rest := (← get).rest
    let name := rest.takeWhile (· != ':')
    setRest (rest.drop name.length)
    if ← take? ":]" then
      match CharSet.posix? (String.ofList name) with
      | some set => return some (← closed negated set)
      | none => back
    else back

/-- What an opening bracket starts with: whether it is turned around, and the signs that stand for
themselves because they come first. -/
def openClass : Parser (Bool × CharSet) := do
  bumpSpace
  let c ← need .openClass
  let negated := c = '^'
  if negated then bumpSpace
  let dashes ← CharSet.empty |> fold fun dashes => do
    let c ← need .openClass
    if c = '-' then
      bumpSpace
      return some (dashes.union (.single '-'))
    else return none
  let c ← need .openClass
  if dashes.ranges.isEmpty && c = ']' then
    bumpSpace
    return (negated, .single ']')
  else return (negated, dashes)

/-- No part stands in so many others. -/
def maxDepth : Nat := 250

/-- A set in brackets, at most so deep. -/
def bracketed : Nat → Parser CharSet
  | 0 => throw .tooDeep
  | depth + 1 => do
    let (negated, start) ← openClass
    let (g, _) ← (({ since := start } : Gathering), true) |> fold fun (g, going) => do
      if !going then return none
      skipSpace
      let c ← need .openClass
      let next := (← get).rest.tail.head?
      let op? : Option SetOp :=
        if c = '&' && next == some '&' then some .inter
        else if c = '-' && next == some '-' then some .diff
        else if c = '~' && next == some '~' then some .symDiff
        else none
      match op? with
      | some op =>
        bump
        bump
        return some ({ left := some (← gathered g, op) }, true)
      | none =>
        if c = '[' then
          match ← posixClass? with
          | some set => return some (g.add set, true)
          | none => return some (g.add (← bracketed depth), true)
        else if c = ']' then
          bump
          return some (g, false)
        else return some (g.add (← classRange), true)
    closed negated (← gathered g)

/-! ## Repetition -/

/-- A whole number with blanks around it. -/
def decimal : Parser Nat := do
  let blank (c : Char) : Bool := CharSet.spaces.contains c.toNat
  setRest ((← get).rest.dropWhile blank)
  let digits ← ([] : List Char) |> fold fun digits => do
    match ← peek with
    | some c =>
      if c.isDigit then
        bumpSpace
        return some (c :: digits)
      else return none
    | none => return none
  setRest ((← get).rest.dropWhile blank)
  skipSpace
  if digits.isEmpty then throw .emptyCount
  else
    let n := digits.reverse.foldl (fun n c => n * 10 + (c.toNat - '0'.toNat)) 0
    if n < 4294967296 then return n else throw .decimalTooLarge

/-- How often: between braces. -/
def counts : Parser (Nat × Option Nat) := do
  bumpSpace
  let _ ← need .openCount
  let least ← decimal
  let c ← need .openCount
  let most ← do
    if c = ',' then
      bumpSpace
      if (← need .openCount) = '\x7d' then pure none else pure (some (← decimal))
    else pure (some least)
  if (← peek) != some '\x7d' then throw .openCount
  else
    bumpSpace
    return (least, most)

/-- What a sign of repetition makes of what stands before it. -/
def repeated (least : Nat) (most : Option Nat) (body : Pattern) : Parser Pattern := do
  let lazy := (← peek) == some '?'
  if lazy then bump
  if (most.map fun n => decide (n < least)) == some true then throw .badCount
  else return .many least most (lazy == (← get).flags.swapGreed) body

/-! ## Groups -/

def flagOf (c : Char) (value : Bool) (flags : Flags) : Option Flags :=
  match c with
  | 'i' => some { flags with ignoreCase := value }
  | 'm' => some { flags with multiLine := value }
  | 's' => some { flags with dotAll := value }
  | 'U' => some { flags with swapGreed := value }
  | 'u' => some { flags with unicode := value }
  | 'R' => some { flags with crlf := value }
  | 'x' => some { flags with spaced := value }
  | _ => none

/-- The flags after a question mark, up to the sign that ends them; the letters seen are left. -/
def flagList : Parser (Flags × List Char) := do
  let (flags, seen) ← ((← get).flags, ([] : List Char)) |> fold fun (flags, seen) => do
    let c ← need .endInFlags
    if c = ':' || c = ')' then return none
    else if c = '-' then
      if seen.contains '-' then throw .repeatedNegation
      else
        bump
        let _ ← need .endInFlags
        return some (flags, c :: seen)
    else
      match flagOf c (!seen.contains '-') flags with
      | none => throw .unknownFlag
      | some flags =>
        if seen.contains c then throw .duplicateFlag
        else
          bump
          let _ ← need .endInFlags
          return some (flags, c :: seen)
  if seen.head? == some '-' then throw .danglingNegation
  else return (flags, seen)

/-- Letters and digits of any script. -/
def alphabetic : CharSet := (CharSet.property? "alphabetic").getD .empty

def numeric : CharSet := CharSet.ofCategories ["nd", "nl", "no"]

def isNameChar (first : Bool) (c : Char) : Bool :=
  c = '_' || alphabetic.contains c.toNat ||
    (!first && (c = '.' || c = '[' || c = ']' || numeric.contains c.toNat))

/-- The name of a group, up to its closing sign. -/
def groupName : Parser String := do
  let _ ← need .endInName
  let name ← ([] : List Char) |> fold fun name => do
    let c ← need .endInName
    if c = '>' then return none
    else if isNameChar name.isEmpty c then
      bump
      return some (c :: name)
    else throw .badName
  bump
  if name.isEmpty then throw .emptyName else return String.ofList name.reverse

/-- The number of the next group. -/
def newGroup : Parser Nat := do
  let n := (← get).groups + 1
  modify ({ · with groups := n })
  return n

/-- What opens a group: its number, if it has one, or flags for the rest of the group around it. -/
inductive Opening where
  | group (index : Option Nat)
  | flags

def opening : Parser Opening := do
  bumpSpace
  if ← take? "?=" then throw .lookAround
  else if ← take? "?!" then throw .lookAround
  else if ← take? "?<=" then throw .lookAround
  else if ← take? "?<!" then throw .lookAround
  else if ← (do if ← take? "?P<" then return true else take? "?<") then
    let n ← newGroup
    let name ← groupName
    if ((← get).names.lookup name).isSome then throw .duplicateName
    else
      modify fun s => { s with names := (name, n) :: s.names }
      return .group (some n)
  else if ← take? "?" then
    let _ ← need .openGroup
    let (flags, seen) ← flagList
    let c ← need .endInFlags
    bump
    if c = ')' && seen.isEmpty then throw .nothingToRepeat
    else
      modify ({ · with flags := flags })
      return if c = ')' then .flags else .group none
  else return .group (some (← newGroup))

/-! ## Patterns -/

/-- The set for a dot. -/
def dot : Parser CharSet := do
  let flags := (← get).flags
  if !flags.unicode then throw .notText
  else if flags.dotAll then return CharSet.empty.complement
  else if flags.crlf then return CharSet.complement ⟨[(0x0A, 0x0A), (0x0D, 0x0D)]⟩
  else return (CharSet.single '\n').complement

/-- What stands for itself, for a set or for a condition. -/
def primitive : Parser Pattern := do
  let flags := (← get).flags
  match ← need .endInEscape with
  | '\\' =>
    match ← escape with
    | .char c byte =>
      if byte && !flags.unicode && 0x7F < c.toNat then throw .notText
      else return .set (← charSet c)
    | .set chars => return .set chars
    | .look condition => return .look condition
  | '.' =>
    bump
    return .set (← dot)
  | '^' =>
    bump
    return .look (if flags.multiLine then .startLine flags.crlf else .startText)
  | '$' =>
    bump
    return .look (if flags.multiLine then .endLine flags.crlf else .endText)
  | c =>
    bump
    return .set (← charSet c)

/-- One pattern for a row. -/
def row : List Pattern → Pattern
  | [] => .empty
  | [item] => item
  | items => .sequence items

/-- The branches and the row that is being read, the last item first. An item is missing where
flags stand. -/
structure Reading where
  branches : List Pattern := []
  items : List (Option Pattern) := []

def Reading.push (r : Reading) (item : Option Pattern) : Reading := { r with items := item :: r.items }

def Reading.endBranch (r : Reading) : Reading :=
  { branches := row (r.items.reverse.filterMap id) :: r.branches }

/-- The item before a sign of repetition, taken away. -/
def Reading.pop (r : Reading) : Parser (Pattern × Reading) :=
  match r.items with
  | some item :: items => return (item, { r with items := items })
  | _ => throw .nothingToRepeat

def Reading.result (r : Reading) : Pattern :=
  match r.endBranch.branches.reverse with
  | [branch] => branch
  | branches => .either branches

/-- A pattern up to the bracket that closes the group it is in, groups at most so deep. -/
def alternatives : Nat → Parser Pattern
  | 0 => throw .tooDeep
  | depth + 1 => do
    let r ← ({} : Reading) |> fold fun r => do
      skipSpace
      match ← peek with
      | none => return none
      | some ')' => return none
      | some '|' =>
        bump
        return some r.endBranch
      | some '(' =>
        let outer := (← get).flags
        match ← opening with
        | .flags => return some (r.push none)
        | .group index =>
          let body ← alternatives depth
          let _ ← need .openGroup
          bump
          modify ({ · with flags := outer })
          return some (r.push (some (.group index body)))
      | some '[' => return some (r.push (some (.set (← bracketed maxDepth))))
      | some '?' =>
        let (item, r) ← r.pop
        bump
        return some (r.push (some (← repeated 0 (some 1) item)))
      | some '*' =>
        let (item, r) ← r.pop
        bump
        return some (r.push (some (← repeated 0 none item)))
      | some '+' =>
        let (item, r) ← r.pop
        bump
        return some (r.push (some (← repeated 1 none item)))
      | some '\x7b' =>
        let (item, r) ← r.pop
        let (least, most) ← counts
        return some (r.push (some (← repeated least most item)))
      | some _ => return some (r.push (some (← primitive)))
    return r.result

/-- A whole pattern. -/
def whole : Parser Pattern := do
  let pattern ← alternatives (maxDepth + 2)
  if (← peek).isSome then throw .closedGroup
  else if maxDepth < pattern.depth then throw .tooDeep
  else return pattern

end Parser

end Bundler.Regex
