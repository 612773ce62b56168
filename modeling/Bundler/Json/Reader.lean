import Bundler.Json.Basic
import Bundler.Script.Letter
import Bundler.Text.Cut
import Bundler.Text.Decimal
import Bundler.Text.Shown

/-!
# Reading JSON

A reader takes characters from the front of a text. Where it fails, what it took stays taken: the
end of a list or object is looked for even then, and the place of a problem that has none so far is
where that left off.
-/

namespace Bundler.Json

inductive Problem where
  | endInList
  | endInObject
  | endInText
  | endInValue
  | expectedColon
  | expectedItemEnd
  | expectedFieldEnd
  | expectedWord
  | expectedValue
  | badEscape
  | badNumber
  | numberTooLarge
  | loneSurrogate
  | escapeCutShort
  | controlCharacter
  | keyNoText
  | trailingComma
  | trailingCharacters
  | tooDeep
  | wrongType (found expected : String)
  | wrongLength (count : Nat) (expected : String)
  | missingField (name : String)
  | duplicateField (name : String)
  | noVariant (type : String)
deriving DecidableEq, Repr

namespace Problem

def message : Problem → String
  | endInList => "EOF while parsing a list"
  | endInObject => "EOF while parsing an object"
  | endInText => "EOF while parsing a string"
  | endInValue => "EOF while parsing a value"
  | expectedColon => "expected `:`"
  | expectedItemEnd => "expected `,` or `]`"
  | expectedFieldEnd => "expected `,` or `\x7d`"
  | expectedWord => "expected ident"
  | expectedValue => "expected value"
  | badEscape => "invalid escape"
  | badNumber => "invalid number"
  | numberTooLarge => "number out of range"
  | loneSurrogate => "lone leading surrogate in hex escape"
  | escapeCutShort => "unexpected end of hex escape"
  | controlCharacter => "control character (\\u0000-\\u001F) found while parsing a string"
  | keyNoText => "key must be a string"
  | trailingComma => "trailing comma"
  | trailingCharacters => "trailing characters"
  | tooDeep => "recursion limit exceeded"
  | wrongType found expected => s!"invalid type: {found}, expected {expected}"
  | wrongLength count expected => s!"invalid length {count}, expected {expected}"
  | missingField name => s!"missing field `{name}`"
  | duplicateField name => s!"duplicate field `{name}`"
  | noVariant type => s!"data did not match any variant of untagged enum {type}"

end Problem

/-- A problem, and how many bytes were read up to it, once that is settled. -/
structure Failure where
  problem : Problem
  offset : Option Nat
deriving DecidableEq, Repr

/-- What is left of a text, and how many bytes were taken from it. -/
structure Cursor where
  rest : List Char
  offset : Nat := 0

/-- A reader of something. -/
def Reader (α : Type) : Type := Cursor → Except Failure α × Cursor

namespace Reader

@[always_inline, inline]
def ret (a : α) : Reader α := fun c => (.ok a, c)

@[always_inline, inline]
def andThen (p : Reader α) (f : α → Reader β) : Reader β := fun c =>
  match p c with
  | (.ok a, c) => f a c
  | (.error e, c) => (.error e, c)

instance : Monad Reader where
  pure := ret
  bind := andThen

def raise (e : Failure) : Reader α := fun c => (.error e, c)

/-- Fails with all that was taken as the place. -/
def fail (problem : Problem) : Reader α := fun c => (.error ⟨problem, some c.offset⟩, c)

/-- Fails with the next byte, if there is one, as the place. -/
def failAhead (problem : Problem) : Reader α := fun c =>
  (.error ⟨problem, some (if c.rest.isEmpty then c.offset else c.offset + 1)⟩, c)

/-- Fails with a place that is settled later. -/
def failLater (problem : Problem) : Reader α := raise ⟨problem, none⟩

/-- Settles the place of a problem as what was taken so far. -/
def settled (p : Reader α) : Reader α := fun c =>
  match p c with
  | (.error ⟨problem, none⟩, c) => (.error ⟨problem, some c.offset⟩, c)
  | result => result

/-- Reads one thing and then another, also where the first one fails. -/
def always (p : Reader α) (q : Reader Unit) : Reader α := fun c =>
  match p c with
  | (.ok a, c) =>
    match q c with
    | (.ok (), c) => (.ok a, c)
    | (.error e, c) => (.error e, c)
  | (.error e, c) => (.error e, (q c).2)

/-! ## Characters -/

def peek : Reader (Option Char) := fun c => (.ok c.rest.head?, c)

def next : Reader (Option Char) := fun c =>
  match c.rest with
  | [] => (.ok none, c)
  | ch :: rest => (.ok (some ch), ⟨rest, c.offset + ch.utf8Size⟩)

def advance : Reader Unit := fun c => ((next c).1.map fun _ => (), (next c).2)

/-- Takes so many bytes without looking at them. -/
def skipBytes (n : Nat) : Reader Unit := fun c => (.ok (), { c with offset := c.offset + n })

/-- How much is left, which bounds every row of things. -/
def left : Reader Nat := fun c => (.ok c.rest.length, c)

def isSpace (c : Char) : Bool := c = ' ' || c = '\n' || c = '\t' || c = '\r'

/-- Takes characters of a kind. -/
def skipWhile (kind : Char → Bool) : Reader (List Char) := fun c =>
  let taken := c.rest.takeWhile kind
  (.ok taken, ⟨c.rest.drop taken.length, c.offset + Text.size taken⟩)

/-- The next character that is no blank. -/
def peekToken : Reader (Option Char) := do
  let _ ← skipWhile isSpace
  peek

/-- Changes a value by reading as long as there is something to read, at most so often. -/
def foldUpTo (p : α → Reader (α × Bool)) : Nat → α → Reader α
  | 0, a => ret a
  | n + 1, a => do
    let (a, more) ← p a
    if more then foldUpTo p n a else return a

/-- Changes a value by reading as long as there is something to read. -/
def fold (p : α → Reader (α × Bool)) (a : α) : Reader α := do
  foldUpTo p ((← left) + 1) a

/-! ## Words and numbers -/

/-- The rest of a word. -/
def wordRest : List Char → Reader Unit
  | [] => ret ()
  | c :: cs => do
    match ← next with
    | none => fail .endInValue
    | some d => if d = c then wordRest cs else fail .expectedWord

def digitValue (c : Char) : Nat := c.toNat - '0'.toNat

/-- The largest whole number that keeps all its digits. -/
def maxWhole : Nat := 18446744073709551615

/-- A decimal: digits and a power of ten. -/
structure Parts where
  digits : Nat
  power : Int

/-- The power of ten as a float. -/
def tenTo (n : Nat) : Float := Float.ofScientific 1 false n

/-- A float divided by ever larger powers of ten. -/
def divided : Nat → Float → Nat → Float
  | 0, f, _ => f
  | fuel + 1, f, n =>
    if n ≤ 308 then f / tenTo n
    else if f == 0 then f
    else divided fuel (f / tenTo 308) (n - 308)

/-- The float of a decimal, which is not infinite. -/
def real (negative : Bool) (parts : Parts) : Reader Json := do
  let f := Float.ofNat parts.digits
  let f ← match parts.power with
    | .ofNat n =>
      if 308 < n then
        if parts.digits = 0 then pure f else fail .numberTooLarge
      else
        let f := f * tenTo n
        if f.isInf then fail .numberTooLarge else pure f
    | .negSucc n => pure (divided (n + 1) f (n + 1))
  return .number (Text.Decimal.text (if negative then -f else f)) true

/-- The largest exponent that is told from any larger one. -/
def maxExponent : Nat := 2147483647

/-- The number after its `e`. -/
def exponent (negative : Bool) (parts : Parts) : Reader Json := do
  advance
  let down ← do
    match ← peek with
    | some '+' =>
      advance
      pure false
    | some '-' =>
      advance
      pure true
    | _ => pure false
  match ← next with
  | none => fail .endInValue
  | some c =>
    if !c.isDigit then fail .badNumber
    else
      -- Digits are taken up to the one that makes the exponent too large.
      let (value, beyond) ← (digitValue c, false) |> fold fun (value, beyond) => do
        match ← peek with
        | some d =>
          if !d.isDigit || beyond then return ((value, beyond), false)
          advance
          let value := value * 10 + digitValue d
          return ((value, value > maxExponent), true)
        | none => return ((value, beyond), false)
      if beyond then
        if parts.digits ≠ 0 && !down then fail .numberTooLarge
        else
          let _ ← skipWhile Char.isDigit
          real negative ⟨0, 0⟩
      else real negative { parts with power := if down then parts.power - value else parts.power + value }

/-- The number from where an exponent may stand. -/
def maybeExponent (negative : Bool) (parts : Parts) : Reader Json := do
  match ← peek with
  | some 'e' => exponent negative parts
  | some 'E' => exponent negative parts
  | _ => real negative parts

/-- The number after its point. Digits that no whole number can keep are dropped. -/
def fraction (negative : Bool) (parts : Parts) : Reader Json := do
  advance
  let places ← skipWhile Char.isDigit
  if places.isEmpty then
    match ← peek with
    | some _ => failAhead .badNumber
    | none => failAhead .endInValue
  else
    let (parts, _) := places.foldl (fun (parts, full) c =>
      let digits := parts.digits * 10 + digitValue c
      if full || digits > maxWhole then (parts, true)
      else (⟨digits, parts.power - 1⟩, false)) (parts, false)
    maybeExponent negative parts

/-- A whole number that is shown with its sign. -/
def whole (negative : Bool) (n : Nat) : Reader Json :=
  if !negative then ret (.number (toString n) false)
  else if n = 0 || n > 9223372036854775808 then real true ⟨n, 0⟩
  else ret (.number ("-" ++ toString n) false)

/-- The number from its first digit on. -/
def numberBody (negative : Bool) : Reader Json := do
  match ← next with
  | none => fail .endInValue
  | some c =>
    if !c.isDigit then fail .badNumber
    else
      let digits ← if c = '0' then pure [] else skipWhile Char.isDigit
      if c = '0' && (← peek).any Char.isDigit then failAhead .badNumber
      else
        -- A number too large to be kept whole goes on as digits and a power of ten.
        let (n, dropped) := digits.foldl (fun (n, dropped) d =>
          let m := n * 10 + digitValue d
          if dropped > 0 || m > maxWhole then (n, dropped + 1) else (m, 0)) (digitValue c, 0)
        match ← peek with
        | some '.' => fraction negative ⟨n, dropped⟩
        | some 'e' => exponent negative ⟨n, dropped⟩
        | some 'E' => exponent negative ⟨n, dropped⟩
        | _ => if dropped = 0 then whole negative n else real negative ⟨n, dropped⟩

/-! ## Texts -/

/-- The value of four hexadecimal digits. -/
def hexEscape : Reader Nat := fun c =>
  let bytes := Text.size c.rest
  if bytes < 4 then (.error ⟨.endInText, some (c.offset + bytes)⟩, ⟨[], c.offset + bytes⟩)
  else
    let bad := (Except.error ⟨.badEscape, some (c.offset + 4)⟩, { c with offset := c.offset + 4 })
    match c.rest with
    | a :: b :: x :: y :: rest =>
      match Script.hexDigit? a, Script.hexDigit? b, Script.hexDigit? x, Script.hexDigit? y with
      | some a, some b, some x, some y =>
        (.ok (((a * 16 + b) * 16 + x) * 16 + y), ⟨rest, c.offset + 4⟩)
      | _, _, _, _ => bad
    | _ => bad

/-- The next character of a text that does not end there. -/
def nextInText : Reader Char := do
  match ← next with
  | some c => return c
  | none => fail .endInText

/-- The next character of a text is a given one. -/
def expectInEscape (expected : Char) : Reader Unit := do
  match ← peek with
  | none => fail .endInText
  | some c =>
    if c = expected then advance
    else
      skipBytes 1
      fail .escapeCutShort

/-- The character after `\u`. Halves of a pair of surrogates stand together. -/
def unicodeEscape : Reader Char := do
  let n ← hexEscape
  if 0xDC00 ≤ n && n ≤ 0xDFFF then fail .loneSurrogate
  else if 0xD800 ≤ n && n ≤ 0xDBFF then
    expectInEscape '\\'
    expectInEscape 'u'
    let m ← hexEscape
    if m < 0xDC00 || 0xDFFF < m then fail .loneSurrogate
    else return Char.ofNat (0x10000 + (n - 0xD800) * 0x400 + (m - 0xDC00))
  else return Char.ofNat n

/-- The character that a letter after a backslash stands for. -/
def escapeLetter? (c : Char) : Option Char :=
  match c with
  | '"' => some '"'
  | '\\' => some '\\'
  | '/' => some '/'
  | 'b' => some (Char.ofNat 8)
  | 'f' => some (Char.ofNat 12)
  | 'n' => some '\n'
  | 'r' => some '\r'
  | 't' => some '\t'
  | _ => none

/-- The character after a backslash. In a text that nobody looks at, surrogates may stand alone. -/
def escaped (looked : Bool) : Reader Char := do
  let c ← nextInText
  match escapeLetter? c with
  | some c => return c
  | none =>
    if c ≠ 'u' then fail .badEscape
    else if looked then unicodeEscape
    else
      let _ ← hexEscape
      return c

/-- The rest of a text after its opening quote. -/
def textRest (looked : Bool) : Reader String := do
  let chars ← ([] : List Char) |> fold fun chars => do
    match ← peek with
    | none => fail .endInText
    | some c =>
      if c = '"' then
        advance
        return (chars, false)
      else if c = '\\' then
        advance
        return ((← escaped looked) :: chars, true)
      else
        advance
        if c.toNat < 0x20 then fail .controlCharacter
        else return (c :: chars, true)
  return String.ofList chars.reverse

/-! ## Rows -/

/-- Whether another item of a list follows. -/
def moreItems (first : Bool) : Reader Bool := do
  match ← peekToken with
  | none => failAhead .endInList
  | some c =>
    if c = ']' then return false
    else if first then return true
    else if c = ',' then
      advance
      match ← peekToken with
      | some ']' => failAhead .trailingComma
      | some _ => return true
      | none => failAhead .endInValue
    else failAhead .expectedItemEnd

/-- Whether another field of an object follows. -/
def moreFields (first : Bool) : Reader Bool := do
  match ← peekToken with
  | none => failAhead .endInObject
  | some c =>
    if c = '\x7d' then return false
    else if first then
      if c = '"' then return true else failAhead .keyNoText
    else if c = ',' then
      advance
      match ← peekToken with
      | some '"' => return true
      | some '\x7d' => failAhead .trailingComma
      | some _ => failAhead .keyNoText
      | none => failAhead .endInValue
    else failAhead .expectedFieldEnd

/-- The end of a list. -/
def endList : Reader Unit := do
  match ← peekToken with
  | some ']' => advance
  | some ',' =>
    advance
    match ← peekToken with
    | some ']' => failAhead .trailingComma
    | _ => failAhead .trailingCharacters
  | some _ => failAhead .trailingCharacters
  | none => failAhead .endInList

/-- The end of an object. -/
def endObject : Reader Unit := do
  match ← peekToken with
  | some '\x7d' => advance
  | some ',' => failAhead .trailingComma
  | some _ => failAhead .trailingCharacters
  | none => failAhead .endInObject

/-- The colon after a key. -/
def colon : Reader Unit := do
  match ← peekToken with
  | some ':' => advance
  | some _ => failAhead .expectedColon
  | none => failAhead .endInObject

/-- A key. -/
def key : Reader String := do
  advance
  textRest true

/-- The items of a list, after its opening bracket. -/
def items (item : Reader α) : Reader (List α) := do
  let found ← ([] : List α) |> fold fun found => do
    if ← moreItems found.isEmpty then return ((← item) :: found, true) else return (found, false)
  return found.reverse

/-- The fields of an object, after its opening brace. -/
def fields (value : Reader α) : Reader (List (String × α)) := do
  let found ← ([] : List (String × α)) |> fold fun found => do
    if ← moreFields found.isEmpty then
      let name ← key
      colon
      return ((name, ← value) :: found, true)
    else return (found, false)
  return found.reverse

/-! ## Values -/

/-- No value holds others more than one less than so many levels deep. -/
def maxDepth : Nat := 128

/-- Any value, at most so many levels deep. -/
def valueAt : Nat → Reader Json
  | 0 => failAhead .tooDeep
  | depth + 1 => settled do
    match ← peekToken with
    | none => failAhead .endInValue
    | some c =>
      if c = 'n' then
        advance
        wordRest "ull".toList
        return .null
      else if c = 't' then
        advance
        wordRest "rue".toList
        return .bool true
      else if c = 'f' then
        advance
        wordRest "alse".toList
        return .bool false
      else if c = '-' then
        advance
        numberBody true
      else if c.isDigit then numberBody false
      else if c = '"' then
        advance
        return .text (← textRest true)
      else if c = '[' then
        if depth = 0 then failAhead .tooDeep
        else
          advance
          return .list (← always (items (valueAt depth)) endList)
      else if c = '\x7b' then
        if depth = 0 then failAhead .tooDeep
        else
          advance
          return .object (← always (fields (valueAt depth)) endObject)
      else failAhead .expectedValue

/-! ## Values that nobody looks at -/

/-- A number from its first digit on. -/
def skipNumber : Reader Unit := do
  match ← next with
  | some c =>
    if !c.isDigit then fail .badNumber
    else
      if c = '0' then
        if (← peek).any Char.isDigit then failAhead .badNumber
      else
        let _ ← skipWhile Char.isDigit
  | none => fail .badNumber
  if (← peek) == some '.' then
    advance
    let places ← skipWhile Char.isDigit
    if places.isEmpty then failAhead .badNumber
  if (← peek) == some 'e' || (← peek) == some 'E' then
    advance
    if (← peek) == some '+' || (← peek) == some '-' then advance
    match ← next with
    | some c => if !c.isDigit then fail .badNumber
    | none => fail .badNumber
    let _ ← skipWhile Char.isDigit

/-- What a value stands in. -/
inductive Frame where
  | list
  | object
deriving DecidableEq

/-- Takes a key and its colon. -/
def skipKey : Reader Unit := do
  match ← peekToken with
  | some '"' => advance
  | some _ => failAhead .keyNoText
  | none => failAhead .endInObject
  let _ ← textRest false
  colon

/-- Takes closing signs, and what stands between them and the next value; the frames that are still
open are left. -/
def skipClosing (started : Bool) (frames : List Frame) : Reader (List Frame × Bool) := do
  match frames with
  | [] => return ([], false)
  | frame :: outer =>
    match ← peekToken with
    | none => failAhead (if frame == .list then .endInList else .endInObject)
    | some c =>
      if c = ',' && started then
        advance
        if frame == .object then skipKey
        return (frames, false)
      else if (c = ']' && frame == .list) || (c = '\x7d' && frame == .object) then
        advance
        return (outer, true)
      else if started then
        failAhead (if frame == .list then .expectedItemEnd else .expectedFieldEnd)
      else
        if frame == .object then skipKey
        return (frames, false)

/-- Takes one value, or the opening sign of one. -/
def skipOpening (frames : List Frame) : Reader (List Frame × Bool) := do
  match ← peekToken with
  | none => failAhead .endInValue
  | some c =>
    if c = 'n' then
      advance
      wordRest "ull".toList
      return (frames, true)
    else if c = 't' then
      advance
      wordRest "rue".toList
      return (frames, true)
    else if c = 'f' then
      advance
      wordRest "alse".toList
      return (frames, true)
    else if c = '-' then
      advance
      skipNumber
      return (frames, true)
    else if c.isDigit then
      skipNumber
      return (frames, true)
    else if c = '"' then
      advance
      let _ ← textRest false
      return (frames, true)
    else if c = '[' then
      advance
      return (.list :: frames, false)
    else if c = '\x7b' then
      advance
      return (.object :: frames, false)
    else failAhead .expectedValue

/-- Takes closing signs as long as there are any; `started` says whether a value stands before. -/
def skipAllClosing (started : Bool) (frames : List Frame) : Reader (List Frame) := do
  let (frames, _) ← (frames, started) |> fold fun (frames, started) => do
    let (frames, closed) ← skipClosing started frames
    return ((frames, true), closed)
  return frames

/-- Takes any value, however deep. -/
def skipValue : Reader Unit := do
  let _ ← ([] : List Frame) |> fold fun frames => do
    let (frames, started) ← skipOpening frames
    let frames ← skipAllClosing started frames
    return (frames, !frames.isEmpty)

/-! ## Values of a type -/

/-- What a value is called that does not have the type it should. -/
def describe : Json → String
  | .null => "null"
  | .bool value => if value then "boolean `true`" else "boolean `false`"
  | .number digits isReal => if isReal then s!"floating point `{digits}`" else s!"integer `{digits}`"
  | .text value => "string " ++ Text.shown value
  | .list _ => "sequence"
  | .object _ => "map"

/-- Takes a value of another type than expected; of a list or object only its kind counts. -/
def wrongType (expected : String) : Reader α := settled do
  match ← peekToken with
  | some '[' => failLater (.wrongType "sequence" expected)
  | some '\x7b' => failLater (.wrongType "map" expected)
  | _ =>
    let value ← valueAt 1
    failLater (.wrongType (describe value) expected)

/-- A text; `expected` says what it stands for. -/
def text (expected : String) : Reader String := settled do
  match ← peekToken with
  | none => failAhead .endInValue
  | some '"' =>
    advance
    textRest true
  | some _ => wrongType expected

/-- A value, or `null` for none. -/
def option (p : Reader α) : Reader (Option α) := do
  match ← peekToken with
  | some 'n' =>
    advance
    wordRest "ull".toList
    return none
  | _ => return some (← p)

/-- A list of values. -/
def sequence (item : Reader α) : Reader (List α) := settled do
  match ← peekToken with
  | none => failAhead .endInValue
  | some '[' =>
    advance
    always (items item) endList
  | some _ => wrongType "a sequence"

/-- A field of a record: its key, how its value is read into the record, and whether it must be
there. -/
structure Field (ρ : Type) where
  name : String
  read : Reader (ρ → ρ)
  required : Bool := false

/-- The fields of a record by their keys. Others are passed over. -/
def keyed (known : List (Field ρ)) (empty : ρ) : Reader ρ := do
  let (record, seen, _) ← (empty, ([] : List String), true) |> fold fun (record, seen, first) => do
    if ← moreFields first then
      let name ← key
      match known.find? (·.name == name) with
      | some field =>
        if seen.contains name then failLater (.duplicateField name)
        else
          colon
          return (((← field.read) record, name :: seen, false), true)
      | none =>
        colon
        skipValue
        return ((record, seen, false), true)
    else return ((record, seen, first), false)
  match known.find? fun field => field.required && !seen.contains field.name with
  | some field => failLater (.missingField field.name)
  | none => return record

/-- The fields of a record in their order. Those at the end may be left out. -/
def ordered (type : String) (count index : Nat) (record : ρ) : List (Field ρ) → Reader ρ
  | [] => ret record
  | field :: rest => do
    if ← moreItems (index == 0) then
      ordered type count (index + 1) ((← field.read) record) rest
    else if field.required then
      failLater (.wrongLength index
        (type ++ " with " ++ toString count ++ (if count = 1 then " element" else " elements")))
    else ordered type count index record rest

/-- A record, written as an object or as a list of its fields. -/
def record (name : String) (known : List (Field ρ)) (empty : ρ) : Reader ρ := settled do
  let type := "struct " ++ name
  match ← peekToken with
  | none => failAhead .endInValue
  | some '[' =>
    advance
    always (ordered type known.length 0 empty known) endList
  | some '\x7b' =>
    advance
    always (keyed known empty) endObject
  | some _ => wrongType type

/-! ## Whole texts -/

/-- Nothing is left but blanks. -/
def finish : Reader Unit := do
  match ← peekToken with
  | some _ => failAhead .trailingCharacters
  | none => return ()

/-- Where a number of bytes ends in a text: the line, and the bytes on it. -/
def position (offset : Nat) : List Char → Nat × Nat → Nat × Nat
  | [], (line, column) => (line, column + offset)
  | c :: rest, (line, column) =>
    if offset < c.utf8Size then (line, column + offset)
    else if c = '\n' then position (offset - 1) rest (line + 1, 0)
    else position (offset - c.utf8Size) rest (line, column + c.utf8Size)

/-- The text of a problem with its place. -/
def report (source : List Char) (e : Failure) : String :=
  match e.offset with
  | some offset =>
    let (line, column) := position offset source (1, 0)
    s!"{e.problem.message} at line {line} column {column}"
  | none => e.problem.message

/-- Reads a whole text. -/
def run (p : Reader α) (source : String) : Except String α :=
  let whole := do
    let a ← p
    finish
    return a
  match (whole { rest := source.toList }).1 with
  | .ok a => .ok a
  | .error e => .error (report source.toList e)

end Reader

/-- The value that a text stands for. -/
def parse (source : String) : Except String Json := Reader.run (Reader.valueAt Reader.maxDepth) source

end Bundler.Json
