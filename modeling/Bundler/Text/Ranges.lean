/-!
# Sets of characters as ranges

A set of characters is written as a text of ascending ranges of code points in hexadecimal,
`61-7a` for many and `aa` for one, with blanks between them.
-/

namespace Bundler.Text

/-- Ascending ranges of code points, both ends included. -/
abbrev Ranges := Array (Nat × Nat)

namespace Ranges

def digit (c : Char) : Nat :=
  if c.isDigit then c.toNat - '0'.toNat else c.toNat - 'a'.toNat + 10

/-- Reads the ranges; `low` is the first end of a range whose second end is being read. -/
def read (low : Option Nat) (value : Nat) : List Char → Ranges → Ranges
  | [], out => out.push (low.getD value, value)
  | c :: cs, out =>
    if c = ' ' then read none 0 cs (out.push (low.getD value, value))
    else if c = '-' then read (some value) 0 cs out
    else read low (value * 16 + digit c) cs out

def ofText (text : String) : Ranges := read none 0 text.toList #[]

/-- Halves the part of the ranges between two indices until one range is left. -/
def search (ranges : Ranges) (n : Nat) : Nat → Nat → Nat → Bool
  | 0, _, _ => false
  | fuel + 1, low, high =>
    if low < high then
      let middle := (low + high) / 2
      match ranges[middle]? with
      | none => false
      | some (first, last) =>
        if n < first then search ranges n fuel low middle
        else if last < n then search ranges n fuel (middle + 1) high
        else true
    else false

def contains (ranges : Ranges) (n : Nat) : Bool := search ranges n ranges.size 0 ranges.size

end Ranges
end Bundler.Text
