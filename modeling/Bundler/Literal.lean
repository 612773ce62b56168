/-!
# String literals of the bundle

A text is written between double quotes with every character that could end the literal or the
line escaped.
-/

namespace Bundler.Literal

def hexDigit (n : Nat) : Char :=
  if n < 10 then Char.ofNat ('0'.toNat + n) else Char.ofNat ('a'.toNat + (n - 10))

/-- Four hexadecimal digits, low digits last. -/
def hex4 (n : Nat) : List Char :=
  [hexDigit (n / 4096 % 16), hexDigit (n / 256 % 16), hexDigit (n / 16 % 16), hexDigit (n % 16)]

/-- The two blocks of control characters. -/
def isControl (c : Char) : Bool := c.toNat < 0x20 || (0x7F ≤ c.toNat && c.toNat ≤ 0x9F)

/-- The line and paragraph separators, which end a line of a script. -/
def isSeparator (c : Char) : Bool := c.toNat = 0x2028 || c.toNat = 0x2029

/-- How a character is written between double quotes. -/
def escape (c : Char) : List Char :=
  if c = '"' then ['\\', '"']
  else if c = '\\' then ['\\', '\\']
  else if c = '\n' then ['\\', 'n']
  else if c = '\r' then ['\\', 'r']
  else if c = '\t' then ['\\', 't']
  else if isControl c || isSeparator c then '\\' :: 'u' :: hex4 c.toNat
  else [c]

def quoteChars (text : List Char) : List Char := '"' :: text.flatMap escape ++ ['"']

/-- The literal whose value is the text. -/
def quote (text : String) : String := String.ofList (quoteChars text.toList)

end Bundler.Literal
