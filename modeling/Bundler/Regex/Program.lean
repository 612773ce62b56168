import Bundler.Regex.Pattern

/-!
# Patterns as programs

A program is a row of steps, each of which names the steps that come after it. Of two steps after
one, the first is the better one.
-/

namespace Bundler.Regex

inductive Step where
  /-- Takes a character of a set. -/
  | char (chars : Text.Ranges) (next : Nat)
  | split (first second : Nat)
  /-- Remembers the place in a slot. -/
  | save (slot : Nat) (next : Nat)
  | look (condition : Look) (next : Nat)
  | done
deriving Inhabited

/-- The steps so far. -/
abbrev Code := Array Step

/-- Adds steps that go on at a given one, and says where they start. -/
abbrev Emit := Nat → Code → Nat × Code

namespace Emit

/-- Adds one step. -/
def step (s : Step) (code : Code) : Nat × Code := (code.size, code.push s)

def nothing : Emit := fun next code => (next, code)

def andThen (a b : Emit) : Emit := fun next code =>
  let (start, code) := b next code
  a start code

def times : Nat → Emit → Emit
  | 0, _ => nothing
  | n + 1, body => body.andThen (times n body)

/-- Two ways to go on, with the better one by greed. -/
def fork (greedy : Bool) (more less : Nat) : Step := if greedy then .split more less else .split less more

/-- At most so often: each time inside the one before. -/
def upTo (greedy : Bool) (body : Emit) : Nat → Emit
  | 0 => nothing
  | n + 1 => fun next code =>
    let (inner, code) := upTo greedy body n next code
    let (start, code) := body inner code
    step (fork greedy start next) code

/-- Once or more. -/
def plus (greedy : Bool) (body : Emit) : Emit := fun next code =>
  -- The fork behind the body is put in before the body is known, and set right after it.
  let (back, code) := step (.split next next) code
  let (start, code) := body back code
  (start, code.setIfInBounds back (fork greedy start next))

/-- Any number of times. A body that may match nothing is tried once before the loop, for the sake
of the order among matches. -/
def star (greedy nullable : Bool) (body : Emit) : Emit := fun next code =>
  if nullable then
    let (start, code) := plus greedy body next code
    step (fork greedy start next) code
  else
    let (back, code) := step (.split next next) code
    let (start, code) := body back code
    (back, code.setIfInBounds back (fork greedy start next))

/-- Between two numbers of times. -/
def many (least : Nat) (most : Option Nat) (greedy nullable : Bool) (body : Emit) : Emit :=
  match most with
  | some most => (times least body).andThen (upTo greedy body (most - least))
  | none =>
    match least with
    | 0 => star greedy nullable body
    | n + 1 => (times n body).andThen (plus greedy body)

end Emit

mutual

def Pattern.emit : Pattern → Emit
  | .empty => .nothing
  | .set chars => fun next => Emit.step (.char chars.ranges.toArray next)
  | .look condition => fun next => Emit.step (.look condition next)
  | .group none body => body.emit
  | .group (some n) body => fun next code =>
    let (start, code) := Emit.step (.save (2 * n + 1) next) code
    let (start, code) := body.emit start code
    Emit.step (.save (2 * n) start) code
  | .sequence items => emitAll items
  | .either items => emitAny items
  | .many least most greedy body => .many least most greedy (!body.least.any (0 < ·)) body.emit

def Pattern.emitAll : List Pattern → Emit
  | [] => .nothing
  | item :: rest => item.emit.andThen (emitAll rest)

def Pattern.emitAny : List Pattern → Emit
  | [] => .nothing
  | item :: rest => fun next code =>
    let (first, code) := item.emit next code
    if rest.isEmpty then (first, code)
    else
      let (second, code) := emitAny rest next code
      Emit.step (.split first second) code

end

/-- The steps of a pattern, and where they start. -/
structure Program where
  code : Code
  start : Nat

def Pattern.program (pattern : Pattern) : Program :=
  let (start, code) := pattern.emit 0 #[.done]
  ⟨code, start⟩

end Bundler.Regex
