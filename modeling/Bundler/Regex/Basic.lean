import Bundler.Regex.Parser
import Bundler.Regex.Search

/-!
# Regular expressions

Of the matches that start first the best one counts: the one that takes the first of the choices
that a pattern gives, wherever it can.
-/

namespace Bundler

/-- A pattern that was read, ready to look for matches. -/
structure Regex where
  program : Regex.Program
  groups : Nat
  names : List (String × Nat)

namespace Regex

/-- About how many bytes a program may take up. -/
def sizeLimit : Nat := 10485760

/-- The pattern that a text stands for, or what is wrong with it. -/
def parse (text : String) : Except String Regex :=
  match Parser.whole.run { rest := text.toList } with
  | .error problem =>
    .error (s!"regex parse error:\n    {text}\nerror: " ++ problem.message)
  | .ok (pattern, state) =>
    if sizeLimit < pattern.weight then
      .error s!"Compiled regex exceeds size limit of {sizeLimit} bytes."
    else
      -- The whole match is remembered like a group.
      let program := (Pattern.group (some 0) pattern).program
      .ok { program := program, groups := state.groups, names := state.names }

def isMatch (regex : Regex) (text : String) : Bool :=
  (regex.program.find regex.groups 0 none text.toList).isSome

/-! ## Replacement -/

/-- A part of a replacement. -/
inductive Piece where
  | text (chars : List Char)
  | group (name : String)
deriving DecidableEq, Repr

def isNameLetter (c : Char) : Bool := c.isAlphanum || c = '_'

/-- The pieces of a replacement: `$name` and `${name}` stand for groups, `$$` for a `$`. The first
`skip` characters were used already. -/
def pieces : Nat → List Char → List Piece
  | _, [] => []
  | skip + 1, _ :: rest => pieces skip rest
  | 0, c :: rest =>
    if c = '$' then
      match rest with
      | '$' :: _ => .text ['$'] :: pieces 1 rest
      | '\x7b' :: inner =>
        let name := inner.takeWhile (· != '\x7d')
        if name.length < inner.length then .group (String.ofList name) :: pieces (name.length + 2) rest
        else .text ['$'] :: pieces 0 rest
      | _ =>
        let name := rest.takeWhile isNameLetter
        if name.isEmpty then .text ['$'] :: pieces 0 rest
        else .group (String.ofList name) :: pieces name.length rest
    else .text [c] :: pieces 0 rest

/-- The number that a name stands for, if it is one that a group may have. -/
def number? (name : String) : Option Nat :=
  let digits := match name.toList with
    | '+' :: rest => rest
    | chars => chars
  if digits.isEmpty || !digits.all Char.isDigit then none
  else
    let n := digits.foldl (fun n c => n * 10 + (c.toNat - '0'.toNat)) 0
    if n < 18446744073709551616 then some n else none

/-- The group that a name in a replacement stands for. -/
def group? (regex : Regex) (name : String) : Option Nat :=
  match number? name with
  | some n => some n
  | none => regex.names.lookup name

/-- The part of a text that a group matched. -/
def Match.group (m : Match) (text : Array Char) (n : Nat) : List Char :=
  match m.slots.getD (2 * n) none, m.slots.getD (2 * n + 1) none with
  | some start, some stop => (text.extract start stop).toList
  | _, _ => []

/-- What a match is replaced by. -/
def expand (regex : Regex) (text : Array Char) (replacement : List Piece) (m : Match) : List Char :=
  replacement.flatMap fun
    | .text chars => chars
    | .group name =>
      match regex.group? name with
      | some n => m.group text n
      | none => []

/-- The next match after another one. A match of nothing may not stand where the last one ended. -/
def next? (regex : Regex) (place : Nat) (before : Option Char) (text : List Char) (last : Option Nat) :
    Option Match :=
  match regex.program.find regex.groups place before text with
  | none => none
  | some m =>
    if m.start = m.stop && last == some m.stop then
      match text with
      | [] => none
      | c :: rest => regex.program.find regex.groups (place + 1) (some c) rest
    else some m

/-- The matches from a place on, at most so many. -/
def matchesFrom (regex : Regex) (text : Array Char) : Nat → Nat → Option Nat → List Match
  | 0, _, _ => []
  | n + 1, place, last =>
    let before := if place = 0 then none else text[place - 1]?
    match regex.next? place before (text.extract place text.size).toList last with
    | none => []
    | some m => m :: regex.matchesFrom text n m.stop (some m.stop)

/-- The text between matches, with a replacement for each. -/
def splice (regex : Regex) (text : Array Char) (replacement : List Piece) : Nat → List Match → List Char
  | place, [] => (text.extract place text.size).toList
  | place, m :: rest =>
    (text.extract place m.start).toList ++ regex.expand text replacement m ++
      regex.splice text replacement m.stop rest

/-- The text with every match replaced. -/
def replaceAll (regex : Regex) (text replacement : String) : String :=
  let chars := text.toList.toArray
  let found := regex.matchesFrom chars (chars.size + 2) 0 none
  String.ofList (regex.splice chars (pieces 0 replacement.toList) 0 found)

end Regex
end Bundler
