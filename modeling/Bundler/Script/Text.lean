import Bundler.Literal
import Bundler.Script.Letter

/-!
# Values of strings and templates

Escapes are read into pieces first. Half of a surrogate pair that stands alone has no character:
it is written as U+FFFD and its four digits, and then U+FFFD itself is written so too.
-/

namespace Bundler.Script

/-- A piece of the value of a string or template. -/
inductive Piece where
  | char (c : Char)
  /-- A code unit given by four digits. -/
  | unit (n : Nat)
  /-- Half of a surrogate pair that can have no other half. -/
  | half (n : Nat)
deriving DecidableEq, Repr

namespace Piece

def isHigh (n : Nat) : Bool := 0xD800 ≤ n && n ≤ 0xDBFF

def isLow (n : Nat) : Bool := 0xDC00 ≤ n && n ≤ 0xDFFF

/-- The pieces with code units made into characters where they can be. -/
def pair : List Piece → List Piece
  | unit a :: unit b :: rest =>
    if isHigh a && isLow b then
      char (Char.ofNat (0x10000 + (a - 0xD800) * 0x400 + (b - 0xDC00))) :: pair rest
    else if isHigh a || isLow a then half a :: pair (unit b :: rest)
    else char (Char.ofNat a) :: pair (unit b :: rest)
  | unit a :: rest =>
    (if isHigh a || isLow a then half a else char (Char.ofNat a)) :: pair rest
  | piece :: rest => piece :: pair rest
  | [] => []

def isHalf : Piece → Bool
  | half _ => true
  | _ => false

def broken (n : Nat) : List Char := Char.ofNat 0xFFFD :: Literal.hex4 n

/-- The characters of a piece among halves of pairs. -/
def brokenChars : Piece → List Char
  | char c => if c.toNat = 0xFFFD then broken 0xFFFD else [c]
  | unit n => broken n
  | half n => broken n

def plainChars : Piece → List Char
  | char c => [c]
  | unit n => broken n
  | half n => broken n

/-- The value that pieces make. -/
def value (pieces : List Piece) : String :=
  let pieces := pair pieces
  String.ofList (if pieces.any isHalf then pieces.flatMap brokenChars else pieces.flatMap plainChars)

/-- The piece of a code point written between braces. -/
def ofPoint? (n : Nat) : Option Piece :=
  if 0x10FFFF < n then none
  else if isHigh n || isLow n then some (half n)
  else some (char (Char.ofNat n))

end Piece

/-- What a reader found: a value, the bytes it takes, and the script after it. -/
structure Found (α : Type) where
  value : α
  size : Nat
  rest : List Char
deriving Repr

/-- What a reader found, for so many more bytes in front. -/
def Found.grow (size : Nat) (found : Found α) : Found α := { found with size := size + found.size }

/-! ## Escapes -/

/-- The value of the two digits after `\x`. -/
def hex2? (a b : Char) : Option Nat := do
  return (← hexDigit? a) * 16 + (← hexDigit? b)

/-- The value of the four digits after `\u`. -/
def hex4? (a b c d : Char) : Option Nat := do
  return (← hex2? a b) * 256 + (← hex2? c d)

/-- The code point before a closing brace, and how many characters it takes with the brace. -/
def bracedPoint? (value : Option Nat) (count : Nat) : List Char → Option (Nat × Nat)
  | [] => none
  | c :: rest =>
    match hexDigit? c with
    | some digit =>
      let value := value.getD 0 * 16 + digit
      if 0x10FFFF < value then none else bracedPoint? (some value) (count + 1) rest
    | none => if c = '}' then value.map fun n => (n, count + 1) else none

/-- The character that a letter after a backslash stands for. -/
def controlLetter? (c : Char) : Option Char :=
  match c with
  | 'n' => some '\n'
  | 't' => some '\t'
  | 'r' => some '\r'
  | 'b' => some (Char.ofNat 8)
  | 'v' => some (Char.ofNat 11)
  | 'f' => some (Char.ofNat 12)
  | _ => none

def octal (c : Char) : Nat := c.toNat - '0'.toNat

/-- What follows a backslash: the pieces it stands for, if it stands for any, how many characters
and how many bytes it takes. -/
structure Escape where
  pieces : Option (List Piece)
  count : Nat
  size : Nat

def Escape.ascii (pieces : Option (List Piece)) (count : Nat) : Escape := ⟨pieces, count, count⟩

def Escape.code (n : Nat) (count : Nat) : Escape := .ascii (some [.char (Char.ofNat n)]) count

/-- Up to three octal digits that make a number below 256. -/
def octalEscape (first : Char) : List Char → Escape
  | a :: b :: _ =>
    if isOctalDigit a then
      if isOctalDigit b && first.toNat < '4'.toNat then
        .code (octal first * 64 + octal a * 8 + octal b) 3
      else .code (octal first * 8 + octal a) 2
    else .code (octal first) 1
  | [a] => if isOctalDigit a then .code (octal first * 8 + octal a) 2 else .code (octal first) 1
  | [] => .code (octal first) 1

/-- Digits after a backslash in a template stand for nothing, but for a single zero. -/
def digitEscape (first : Char) (rest : List Char) : Escape :=
  let alone := match rest with
    | d :: _ => !d.isDigit
    | [] => true
  if first = '0' && alone then .code 0 1 else .ascii none 1

def unicodeEscape : List Char → Escape
  | '{' :: rest =>
    match bracedPoint? none 0 rest with
    | some (n, count) => .ascii ((Piece.ofPoint? n).map ([·])) (count + 2)
    | none => .ascii none 1
  | a :: b :: c :: d :: _ =>
    match hex4? a b c d with
    | some n => .ascii (some [.unit n]) 5
    | none => .ascii none 1
  | _ => .ascii none 1

/-- What follows a backslash in a string or a template. -/
def escape (inTemplate : Bool) : List Char → Escape
  | [] => .ascii none 0
  | e :: rest =>
    match controlLetter? e with
    | some c => .code c.toNat 1
    | none =>
      if e = '\r' then
        match rest with
        | '\n' :: _ => .ascii (some []) 2
        | _ => .ascii (some []) 1
      else if isLineEnd e then ⟨some [], 1, e.utf8Size⟩
      else if e = 'x' then
        match rest with
        | a :: b :: _ =>
          match hex2? a b with
          | some n => .code n 3
          | none => .ascii none 1
        | _ => .ascii none 1
      else if e = 'u' then unicodeEscape rest
      else if inTemplate && e.isDigit then digitEscape e rest
      else if isOctalDigit e then octalEscape e rest
      else ⟨some [.char e], 1, e.utf8Size⟩

/-! ## Strings -/

/-- The rest of a string after its opening quote, once so many characters are passed over. -/
def readText (quote : Char) : Nat → List Char → Option (Found (List Piece))
  | _, [] => none
  | skip + 1, _ :: rest => readText quote skip rest
  | 0, c :: rest =>
    if c = quote then some { value := [], size := 1, rest := rest }
    else if c = '\n' || c = '\r' then none
    else if c = '\\' then do
      let escape := escape false rest
      let pieces ← escape.pieces
      let found ← readText quote escape.count rest
      return { found with value := pieces ++ found.value, size := 1 + escape.size + found.size }
    else do
      let found ← readText quote 0 rest
      return { found with value := .char c :: found.value, size := c.utf8Size + found.size }

/-! ## Templates -/

/-- A piece of a template: its value, if every escape in it has one, and whether the template ends
with it. -/
structure Quasi where
  pieces : Option (List Piece)
  closed : Bool

def Quasi.push (front : Option (List Piece)) (q : Quasi) : Quasi :=
  { q with pieces := do return (← front) ++ (← q.pieces) }

/-- The rest of a piece of a template, up to the end of the template or to an opening brace after a
dollar sign, once so many characters are passed over. A line ends in `\n` however it is written. -/
def readQuasi : Nat → List Char → Option (Found Quasi)
  | _, [] => none
  | skip + 1, _ :: rest => readQuasi skip rest
  | 0, c :: rest =>
    let go (front : Option (List Piece)) (count size : Nat) := do
      let found ← readQuasi count rest
      return { found with value := found.value.push front, size := size + found.size }
    if c = '`' then some { value := ⟨some [], true⟩, size := 1, rest := rest }
    else if c = '$' then
      match rest with
      | '{' :: after => some { value := ⟨some [], false⟩, size := 2, rest := after }
      | _ => go (some [.char c]) 0 1
    else if c = '\r' then
      match rest with
      | '\n' :: _ => go (some [.char '\n']) 1 2
      | _ => go (some [.char '\n']) 0 1
    else if c = '\\' then
      let escape := escape true rest
      go escape.pieces escape.count (1 + escape.size)
    else go (some [.char c]) 0 c.utf8Size

end Bundler.Script
