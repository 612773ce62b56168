import Bundler.Text.Cut
import Bundler.Script.Text
import Bundler.Script.Token

/-!
# Reading tokens

`Lexeme.next` reads the token after a place. What the same signs mean elsewhere is read on demand:
a regular expression for a slash, the next piece of a template for a closing brace, one sign for a
row of `>`, and the words of elements.
-/

namespace Bundler.Script
namespace Lexer

/-! ## Between tokens -/

inductive Gap where
  | blank
  | lineComment
  | blockComment
deriving DecidableEq

/-- The start of the next token: the lines that end before it, the bytes up to it, and the script
from it on. There is none inside a comment that does not end. -/
def skipGap (fresh : Bool) (size : Nat) : Gap → List Char → Option (Bool × Nat × List Char)
  | .blockComment, [] => none
  | _, [] => some (fresh, size, [])
  | .blockComment, '*' :: '/' :: rest => skipGap fresh (size + 2) .blank rest
  | .blank, '/' :: '/' :: rest => skipGap fresh (size + 2) .lineComment rest
  | .blank, '/' :: '*' :: rest => skipGap fresh (size + 2) .blockComment rest
  | .blank, c :: rest =>
    if isLineEnd c then skipGap true (size + c.utf8Size) .blank rest
    else if isBlank c then skipGap fresh (size + c.utf8Size) .blank rest
    else some (fresh, size, c :: rest)
  | .lineComment, c :: rest =>
    if isLineEnd c then skipGap true (size + c.utf8Size) .blank rest
    else skipGap fresh (size + c.utf8Size) .lineComment rest
  | .blockComment, c :: rest =>
    skipGap (fresh || isLineEnd c) (size + c.utf8Size) .blockComment rest

/-! ## Names -/

/-- The letters of a name and whether they are written without escapes, once so many characters
are passed over. -/
def readName : Nat → List Char → Option (Found (List Char × Bool))
  | _, [] => some { value := ([], true), size := 0, rest := [] }
  | skip + 1, _ :: rest => readName skip rest
  | 0, c :: rest =>
    if isNamePart c then do
      let found ← readName 0 rest
      let (letters, plain) := found.value
      return { found with value := (c :: letters, plain), size := c.utf8Size + found.size }
    else if c = '\\' then
      match rest with
      | 'u' :: after =>
        let escape := unicodeEscape after
        match escape.pieces.map Piece.pair with
        | some [.char letter] => do
          guard (isNamePart letter)
          let found ← readName escape.count rest
          let (letters, _) := found.value
          return { found with value := (letter :: letters, false), size := 1 + escape.size + found.size }
        | _ => none
      | _ => none
    else some { value := ([], true), size := 0, rest := c :: rest }

/-- A whole name. -/
def name? (script : List Char) : Option (Found (List Char × Bool)) := do
  let found ← readName 0 script
  guard (found.value.1.head?.any isNameStart)
  return found

/-! ## Numbers -/

/-- Digits of one kind with single underscores between them; `last` says whether a digit stands
before. -/
def digits (kind : Char → Bool) (last : Bool) : List Char → Option (Found Unit)
  | [] => if last then some ⟨(), 0, []⟩ else none
  | c :: rest =>
    if kind c then (digits kind true rest).map (.grow 1)
    else if c = '_' && last then
      (digits kind false rest).map (.grow 1)
    else if last then some ⟨(), 0, c :: rest⟩ else none

/-- Digits, or nothing. -/
def digits? (kind : Char → Bool) : List Char → Option (Found Unit)
  | [] => some ⟨(), 0, []⟩
  | c :: rest => if kind c then digits kind false (c :: rest) else some ⟨(), 0, c :: rest⟩

/-- Digits without underscores. -/
def digitRun (script : List Char) : Found Unit :=
  let run := script.takeWhile Char.isDigit
  ⟨(), run.length, script.drop run.length⟩

/-- The exponent of a number, if there is one. -/
def exponent? : List Char → Option (Found Unit)
  | [] => some ⟨(), 0, []⟩
  | c :: rest =>
    if c = 'e' || c = 'E' then
      match rest with
      | '+' :: rest => (digits Char.isDigit false rest).map (.grow 2)
      | '-' :: rest => (digits Char.isDigit false rest).map (.grow 2)
      | rest => (digits Char.isDigit false rest).map (.grow 1)
    else some ⟨(), 0, c :: rest⟩

/-- What may follow the whole part of a decimal number. -/
def fraction? : List Char → Option (Found Unit)
  | '.' :: rest => do
    let places ← digits? Char.isDigit rest
    let power ← exponent? places.rest
    return power.grow (1 + places.size)
  | rest => exponent? rest

/-- A whole number may be marked as a big one. -/
def bigMark : List Char → Found Unit
  | 'n' :: rest => ⟨(), 1, rest⟩
  | rest => ⟨(), 0, rest⟩

def isBinaryDigit (c : Char) : Bool := c = '0' || c = '1'

/-- Digits of a number after its two letters of kind. -/
def radix? (kind : Char → Bool) (rest : List Char) : Option (Found Unit) := do
  let whole ← digits kind false rest
  return (bigMark whole.rest).grow (2 + whole.size)

/-- A number from its first character on. -/
def numberBody? : List Char → Option (Found Unit)
  | '0' :: c :: rest =>
    if c = 'x' || c = 'X' then radix? (fun d => (hexDigit? d).isSome) rest
    else if c = 'o' || c = 'O' then radix? isOctalDigit rest
    else if c = 'b' || c = 'B' then radix? isBinaryDigit rest
    else if c.isDigit then
      let run := digitRun (c :: rest)
      if ((c :: rest).take run.size).all isOctalDigit then some (run.grow 1)
      else (fraction? run.rest).map (.grow (1 + run.size))
    else if c = 'n' then some ⟨(), 2, rest⟩
    else (fraction? (c :: rest)).map (.grow 1)
  | '.' :: rest => fraction? ('.' :: rest)
  | script => do
    let whole ← digits Char.isDigit false script
    match whole.rest with
    | 'n' :: rest => return ⟨(), whole.size + 1, rest⟩
    | rest => return (← fraction? rest).grow whole.size

/-- A number, which neither a digit nor a name may follow. -/
def number? (script : List Char) : Option (Found Unit) := do
  let found ← numberBody? script
  match found.rest with
  | c :: _ => guard (!(c.isDigit || isNameStart c))
  | [] => pure ()
  return found

/-! ## Regular expressions -/

/-- The rest of a regular expression after its first slash, up to its last one. -/
def patternEnd (inClass : Bool) : List Char → Option (Found Unit)
  | [] => none
  | c :: rest =>
    if isLineEnd c then none
    else if c = '\\' then
      match rest with
      | [] => none
      | e :: rest =>
        if isLineEnd e then none
        else (patternEnd inClass rest).map (.grow (1 + e.utf8Size))
    else if c = '/' && !inClass then some ⟨(), 1, rest⟩
    else if c = '[' then (patternEnd true rest).map (.grow 1)
    else if c = ']' then (patternEnd false rest).map (.grow 1)
    else (patternEnd inClass rest).map (.grow c.utf8Size)

/-- Flags stand once each, and `u` and `v` exclude each other. -/
def flagsAgree : List Char → Bool
  | [] => true
  | c :: rest =>
    "dgimsuvy".toList.contains c && !rest.contains c &&
      !(c = 'u' && rest.contains 'v') && !(c = 'v' && rest.contains 'u') && flagsAgree rest

/-- A regular expression from its first slash on. -/
def pattern? : List Char → Option (Found Unit)
  | '/' :: rest => do
    let body ← patternEnd false rest
    let flags := body.rest.takeWhile isNamePart
    guard (flagsAgree flags)
    return ⟨(), 1 + body.size + flags.length, body.rest.drop flags.length⟩
  | _ => none

/-! ## Tokens -/

/-- The first sign of a table that a script starts with. -/
def sign? (table : List (List Char × Mark)) (script : List Char) : Option (Found Mark) :=
  (table.find? fun (sign, _) => sign.isPrefixOf script).map fun (sign, mark) =>
    ⟨mark, sign.length, script.drop sign.length⟩

/-- A `?.` before a digit is a `?` and the start of a number. -/
def mark? (script : List Char) : Option (Found Mark) :=
  match script with
  | '?' :: '.' :: d :: rest =>
    if d.isDigit then some ⟨.question, 1, '.' :: d :: rest⟩ else sign? Mark.table script
  | _ => sign? Mark.table script

def template? (script : List Char) : Option (Found Token) :=
  (readQuasi 0 script).map fun found =>
    { found with value := .template (found.value.pieces.map Piece.value) found.value.closed }

def startsNumber : List Char → Bool
  | '.' :: d :: _ => d.isDigit
  | c :: _ => c.isDigit
  | [] => false

/-- The token that a script starts with. -/
def token? (script : List Char) : Option (Found Token) :=
  match script with
  | [] => some ⟨.stop, 0, []⟩
  | c :: rest =>
    if c = '"' || c = '\'' then
      (readText c 0 rest).map fun found =>
        { found with value := .text (Piece.value found.value), size := 1 + found.size }
    else if c.toNat = 0x60 then (template? rest).map (.grow 1)
    else if startsNumber script then
      (number? script).map fun found => { found with value := .number }
    else if c = '#' then
      (name? rest).map fun found =>
        { found with value := .hidden (String.ofList found.value.1), size := 1 + found.size }
    else if isNameStart c || c = '\\' then
      (name? script).map fun found =>
        { found with value := .word (String.ofList found.value.1) found.value.2 }
    else (mark? script).map fun found => { found with value := .mark found.value }

/-! ## Tokens of elements -/

/-- Text between tags. A sign that closes a tag or an expression does not stand in it. -/
def passage? (script : List Char) : Option (Found Token) :=
  match script with
  | [] => some ⟨.stop, 0, []⟩
  | '<' :: rest => some ⟨.mark .less, 1, rest⟩
  | '\x7b' :: rest => some ⟨.mark .braceL, 1, rest⟩
  | _ =>
    let text := script.takeWhile fun c => c != '<' && c != '\x7b'
    if text.contains '>' || text.contains '\x7d' then none
    else some ⟨.passage, Text.size text, script.drop text.length⟩

/-- The value of an attribute in quotes, which has no escapes and any number of lines. -/
def value? (script : List Char) : Option (Found Token) :=
  match script with
  | c :: rest =>
    if c = '"' || c = '\'' then
      let text := rest.takeWhile (· != c)
      match rest.drop text.length with
      | _ :: after => some ⟨.text (String.ofList text), Text.size text + 2, after⟩
      | [] => none
    else token? script
  | [] => token? script

/-- A name that may hold hyphens. -/
def elementName? (script : List Char) : Option (Found Token) :=
  let name := script.takeWhile fun c => isNamePart c || c = '-'
  if script.head?.any isNameStart then
    some ⟨.word (String.ofList name) true, Text.size name, script.drop name.length⟩
  else none

end Lexer

/-! ## Lexemes -/

namespace Lexeme
open Lexer

/-- A lexeme that starts where `l` does. -/
def again (l : Lexeme) (found : Option (Found Token)) : Lexeme :=
  match found with
  | some found =>
    { l with token := found.value, stop := l.start + found.size, rest := found.rest }
  | none => { l with token := .bad, stop := l.start, rest := [] }

/-- The lexeme at a place of the script. -/
def at' (offset : Nat) (fresh : Bool) (script : List Char) (found : Option (Found Token)) : Lexeme :=
  again ⟨.bad, offset, offset, fresh, script, script⟩ found

/-- The lexeme after a place of the script. -/
def read (offset : Nat) (script : List Char) : Lexeme :=
  match skipGap false 0 .blank script with
  | some (fresh, size, script) => at' (offset + size) fresh script (token? script)
  | none => at' offset false script none

/-- The lexeme after another one. -/
def next (l : Lexeme) : Lexeme := read l.stop l.rest

/-- The same place read as a regular expression. -/
def asPattern (l : Lexeme) : Lexeme :=
  l.again ((pattern? l.here).map fun found => { found with value := .regex })

/-- The place of a closing brace read as the next piece of a template. -/
def asTemplate (l : Lexeme) : Lexeme :=
  l.again ((template? l.here.tail).map (.grow 1))

/-- The place of a `>` read as the longest sign that starts with it. -/
def asGreater (l : Lexeme) : Lexeme :=
  l.again ((sign? Mark.greaterTable l.here).map fun found => { found with value := .mark found.value })

/-- The place of a sign that starts with `<` read as a `<` alone. -/
def asLess (l : Lexeme) : Lexeme :=
  l.again (some ⟨.mark .less, 1, l.here.tail⟩)

/-- The text, tag or expression after a tag. -/
def nextPassage (l : Lexeme) : Lexeme := at' l.stop false l.rest (passage? l.rest)

/-- The value of an attribute. -/
def nextValue (l : Lexeme) : Lexeme :=
  match skipGap false 0 .blank l.rest with
  | some (fresh, size, script) => at' (l.stop + size) fresh script (value? script)
  | none => at' l.stop false l.rest none

/-- The same place read as the name of an element. -/
def asElementName (l : Lexeme) : Lexeme := l.again (elementName? l.here)

end Lexeme
end Bundler.Script
