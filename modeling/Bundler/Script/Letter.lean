import Bundler.Text.NameLetters

/-!
# Letters of a script

The classes of characters that the words of a script are cut by.
-/

namespace Bundler.Script

/-- A character that ends a line. -/
def isLineEnd (c : Char) : Bool :=
  c = '\n' || c = '\r' || c.toNat = 0x2028 || c.toNat = 0x2029

/-- A character between words that ends no line. -/
def isBlank (c : Char) : Bool :=
  let n := c.toNat
  n = 0x20 || n = 0x09 || n = 0x0B || n = 0x0C || n = 0xA0 || n = 0xFEFF || n = 0x85 ||
    n = 0x1680 || n = 0x180E || (0x2000 ≤ n && n ≤ 0x200B) || n = 0x202F || n = 0x205F ||
    n = 0x3000

/-- A character that a name may start with. -/
def isNameStart (c : Char) : Bool :=
  c.isAlpha || c = '$' || c = '_' || (0x80 ≤ c.toNat && Text.nameStart.contains c.toNat)

/-- A character that a name may go on with, the two joiners included. -/
def isNamePart (c : Char) : Bool :=
  c.isAlphanum || c = '$' || c = '_' || c.toNat = 0x200C || c.toNat = 0x200D ||
    (0x80 ≤ c.toNat && Text.namePart.contains c.toNat)

def isOctalDigit (c : Char) : Bool := '0' ≤ c && c ≤ '7'

/-- The value of a hexadecimal digit. -/
def hexDigit? (c : Char) : Option Nat :=
  if '0' ≤ c && c ≤ '9' then some (c.toNat - '0'.toNat)
  else if 'a' ≤ c && c ≤ 'f' then some (c.toNat - 'a'.toNat + 10)
  else if 'A' ≤ c && c ≤ 'F' then some (c.toNat - 'A'.toNat + 10)
  else none

end Bundler.Script
