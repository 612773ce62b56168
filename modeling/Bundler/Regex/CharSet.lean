import Bundler.Text.Case
import Bundler.Text.Property
import Bundler.Text.Writing

/-!
# Sets of characters in patterns
-/

namespace Bundler.Regex

/-- A set of characters: ascending ranges of code points with gaps between them. -/
structure CharSet where
  ranges : List (Nat × Nat)
deriving DecidableEq, Repr, Inhabited

namespace CharSet

/-- The last code point. -/
def last : Nat := 0x10FFFF

/-- Ranges that ascend, with those joined that meet. -/
def joined : List (Nat × Nat) → List (Nat × Nat)
  | [] => []
  | (a, b) :: rest =>
    match joined rest with
    | (x, y) :: others => if x ≤ b + 1 then (a, max b y) :: others else (a, b) :: (x, y) :: others
    | [] => [(a, b)]

/-- The set of the code points in any of the ranges. -/
def ofRanges (ranges : List (Nat × Nat)) : CharSet :=
  ⟨joined (ranges.mergeSort fun a b => a.1 ≤ b.1)⟩

def empty : CharSet := ⟨[]⟩

def single (c : Char) : CharSet := ⟨[(c.toNat, c.toNat)]⟩

def ofText (text : String) : CharSet :=
  if text.isEmpty then empty else ⟨(Text.Ranges.ofText text).toList⟩

def contains (set : CharSet) (n : Nat) : Bool :=
  set.ranges.any fun (first, last) => first ≤ n && n ≤ last

/-! ## Operations -/

def union (a b : CharSet) : CharSet := ofRanges (a.ranges ++ b.ranges)

/-- What is left between the ranges from `next` to `top`. -/
def gaps (top next : Nat) : List (Nat × Nat) → List (Nat × Nat)
  | [] => if next ≤ top then [(next, top)] else []
  | (a, b) :: rest => if next < a then (next, a - 1) :: gaps top (b + 1) rest else gaps top (b + 1) rest

/-- The code points up to `top` that are not in the set. -/
def complementTo (top : Nat) (set : CharSet) : CharSet := ⟨gaps top 0 set.ranges⟩

def complement (set : CharSet) : CharSet := set.complementTo last

def inter (a b : CharSet) : CharSet := (a.complement.union b.complement).complement

def diff (a b : CharSet) : CharSet := a.inter b.complement

def symDiff (a b : CharSet) : CharSet := (a.union b).diff (a.inter b)

def isAscii (set : CharSet) : Bool := set.ranges.all fun (_, last) => last < 0x80

/-! ## Case -/

/-- All letters that differ only in case, together. -/
def rings : List (List Nat) :=
  Text.caseRings ++ Text.casePairs.flatMap fun (first, last, stride, distance) =>
    (List.range ((last - first) / stride + 1)).map fun i =>
      [first + i * stride, first + i * stride + distance]

/-- The set with the letters that differ from its own only in case. -/
def fold (set : CharSet) : CharSet :=
  let ranges := set.ranges.toArray
  let found := rings.filter fun ring => ring.any (Text.Ranges.contains ranges)
  ofRanges (set.ranges ++ found.flatMap fun ring => ring.map fun n => (n, n))

/-- The set with the ASCII letters that differ from its own only in case. -/
def foldAscii (set : CharSet) : CharSet :=
  let upper := (set.inter ⟨[(0x41, 0x5A)]⟩).ranges.map fun (a, b) => (a + 0x20, b + 0x20)
  let lower := (set.inter ⟨[(0x61, 0x7A)]⟩).ranges.map fun (a, b) => (a - 0x20, b - 0x20)
  ofRanges (set.ranges ++ upper ++ lower)

/-! ## Named sets -/

/-- The names in a row of names. -/
def named (names name : String) : Bool := (names.splitOn " ").contains name

/-- The characters that a list of categories takes in. -/
def ofCategories (names : List String) : CharSet :=
  ofRanges <| names.flatMap fun name =>
    match Text.categories.find? (named ·.names name) with
    | some row => (ofText row.ranges).ranges
    | none => []

/-- The categories that a name stands for. -/
def categories? (name : String) : Option (List String) :=
  match Text.categoryGroups.find? (named ·.1 name) with
  | some (_, members) => some (members.splitOn " ")
  | none =>
    match Text.categories.find? (named ·.names name) with
    | some _ => some [name]
    | none => none

/-- The set of a general category, or of one of three that are none. -/
def category? (name : String) : Option CharSet :=
  if name = "any" then some empty.complement
  else if name = "ascii" then some ⟨[(0, 0x7F)]⟩
  else if name = "assigned" then some (ofCategories ["cn"]).complement
  else (categories? name).map ofCategories

def ofProperty (p : Text.Property) : CharSet :=
  let base := ofCategories ((p.categories.splitOn " ").filter fun name => !name.isEmpty)
  (base.union (ofText p.besides)).diff (ofText p.without)

def property? (name : String) : Option CharSet :=
  (Text.properties.find? (named ·.names name)).map ofProperty

def script? (name : String) : Option CharSet :=
  (Text.scripts.find? (named ·.names name)).map fun row => ofText row.ranges

/-- The characters that are used in a script. -/
def scriptUse? (name : String) : Option CharSet := do
  let row ← Text.scripts.find? (named ·.names name)
  let rows (table : List Text.NamedRanges) : CharSet :=
    match table.find? fun other => named row.names other.names with
    | some other => ofText other.ranges
    | none => empty
  return ((ofText row.ranges).union (rows Text.scriptGuests)).diff (rows Text.scriptAbsent)

/-- Small ASCII letters, without what only divides words. -/
def plainName (name : List Char) : List Char :=
  (name.filter fun c => c.toNat < 0x80 && c != ' ' && c != '_' && c != '-').map Char.toLower

/-- A name as it is looked up: plain, and without an `is` in front. -/
def lookupName (name : String) : String :=
  match name.toList with
  | i :: s :: rest =>
    if i.toLower = 'i' && s.toLower = 's' then
      -- The one short name that starts like this.
      if plainName rest = ['c'] then "isc" else String.ofList (plainName rest)
    else String.ofList (plainName (i :: s :: rest))
  | short => String.ofList (plainName short)

/-- The set that a name stands for: a property, a category or a script. -/
def ofName? (name : String) : Option CharSet :=
  let name := lookupName name
  -- These short names are those of properties too, but stand for categories.
  (if ["cf", "sc", "lc"].contains name then none else property? name) <|>
    category? name <|> script? name

/-- The set of the characters that have a value of a property. -/
def ofValue? (name value : String) : Option CharSet :=
  let name := lookupName name
  let value := lookupName value
  if name = "generalcategory" || name = "gc" then category? value
  else if name = "script" || name = "sc" then script? value
  else if name = "scriptextensions" || name = "scx" then scriptUse? value
  else none

/-! ## Classes with a letter -/

def digits : CharSet := ofCategories ["nd"]

def spaces : CharSet := (property? "whitespace").getD empty

def words : CharSet := ofProperty Text.wordProperty

def asciiDigits : CharSet := ⟨[(0x30, 0x39)]⟩

def asciiSpaces : CharSet := ⟨[(0x09, 0x0D), (0x20, 0x20)]⟩

def asciiWords : CharSet := ⟨[(0x30, 0x39), (0x41, 0x5A), (0x5F, 0x5F), (0x61, 0x7A)]⟩

/-- The ASCII classes by their names. -/
def posix? (name : String) : Option CharSet :=
  match name with
  | "alnum" => some ⟨[(0x30, 0x39), (0x41, 0x5A), (0x61, 0x7A)]⟩
  | "alpha" => some ⟨[(0x41, 0x5A), (0x61, 0x7A)]⟩
  | "ascii" => some ⟨[(0, 0x7F)]⟩
  | "blank" => some ⟨[(0x09, 0x09), (0x20, 0x20)]⟩
  | "cntrl" => some ⟨[(0, 0x1F), (0x7F, 0x7F)]⟩
  | "digit" => some asciiDigits
  | "graph" => some ⟨[(0x21, 0x7E)]⟩
  | "lower" => some ⟨[(0x61, 0x7A)]⟩
  | "print" => some ⟨[(0x20, 0x7E)]⟩
  | "punct" => some ⟨[(0x21, 0x2F), (0x3A, 0x40), (0x5B, 0x60), (0x7B, 0x7E)]⟩
  | "space" => some asciiSpaces
  | "upper" => some ⟨[(0x41, 0x5A)]⟩
  | "word" => some asciiWords
  | "xdigit" => some ⟨[(0x30, 0x39), (0x41, 0x46), (0x61, 0x66)]⟩
  | _ => none

end CharSet
end Bundler.Regex
