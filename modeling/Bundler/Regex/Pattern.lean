import Bundler.Regex.CharSet

/-!
# Patterns
-/

namespace Bundler.Regex

/-- A condition on the place between two characters. -/
inductive Look where
  | startText
  | endText
  /-- The start of a line; lines may also end in `\r\n` or `\r`. -/
  | startLine (crlf : Bool)
  | endLine (crlf : Bool)
  /-- The edge of a word of these characters. -/
  | edge (words : CharSet)
  | noEdge (words : CharSet)
  | wordStart (words : CharSet)
  | wordEnd (words : CharSet)
  | noWordBefore (words : CharSet)
  | noWordAfter (words : CharSet)
deriving Repr, Inhabited

inductive Pattern where
  | empty
  /-- One character of a set. -/
  | set (chars : CharSet)
  | look (condition : Look)
  /-- A part in brackets, with its number if it is remembered. -/
  | group (index : Option Nat) (body : Pattern)
  | sequence (items : List Pattern)
  /-- The first of these that leads to a match. -/
  | either (items : List Pattern)
  /-- Many times; `greedy` says whether more is better. -/
  | many (least : Nat) (most : Option Nat) (greedy : Bool) (body : Pattern)
deriving Inhabited

namespace Pattern

mutual

/-- The number of characters in the shortest match, or none where there is no match. -/
def least : Pattern → Option Nat
  | .empty => some 0
  | .set chars => if chars.ranges.isEmpty then none else some 1
  | .look _ => some 0
  | .group _ body => body.least
  | .sequence items => leastOfAll items
  | .either items => leastOfAny items
  | .many n _ _ body => if n = 0 then some 0 else body.least.map (n * ·)

def leastOfAll : List Pattern → Option Nat
  | [] => some 0
  | item :: rest => do return (← item.least) + (← leastOfAll rest)

def leastOfAny : List Pattern → Option Nat
  | [] => none
  | item :: rest =>
    match item.least, leastOfAny rest with
    | some a, some b => some (min a b)
    | some a, none => some a
    | none, b => b

end

mutual

/-- How deep parts stand in parts. -/
def depth : Pattern → Nat
  | .empty => 0
  | .set _ => 0
  | .look _ => 0
  | .group _ body => body.depth + 1
  | .sequence items => depthOfAny items + 1
  | .either items => depthOfAny items + 1
  | .many _ _ _ body => body.depth + 1

def depthOfAny : List Pattern → Nat
  | [] => 0
  | item :: rest => max item.depth (depthOfAny rest)

end

/-- About how many bytes a set takes up in a program. -/
def setWeight (chars : CharSet) : Nat :=
  if chars.isAscii then 32 + 8 * (chars.ranges.length - 1) else 60 * chars.ranges.length + 100

mutual

/-- About how many bytes a pattern takes up as a program. -/
def weight : Pattern → Nat
  | .empty => 32
  | .set chars => setWeight chars
  | .look _ => 32
  | .group _ body => body.weight + 64
  | .sequence items => weightOfAll items
  | .either items => weightOfAll items + 32
  | .many n most _ body =>
    n * body.weight + (most.getD (n + 1) - n) * (body.weight + 40)

def weightOfAll : List Pattern → Nat
  | [] => 0
  | item :: rest => item.weight + weightOfAll rest

end

end Pattern
end Bundler.Regex
