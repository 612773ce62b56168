import Bundler.Regex.Program

/-!
# Looking for matches

All ways through a program are followed at once, the better ones first. A step that a better way
reached at the same place is not followed again.
-/

namespace Bundler.Regex

/-! ## Conditions -/

/-- Whether a condition holds between two characters. -/
def Look.holds (before after : Option Char) : Look → Bool
  | startText => before.isNone
  | endText => after.isNone
  | startLine crlf =>
    before.isNone || before == some '\n' || (crlf && before == some '\r' && after != some '\n')
  | endLine crlf =>
    if crlf then after.isNone || after == some '\r' || (after == some '\n' && before != some '\r')
    else after.isNone || after == some '\n'
  | edge words => isWord words before != isWord words after
  | noEdge words => isWord words before == isWord words after
  | wordStart words => !isWord words before && isWord words after
  | wordEnd words => isWord words before && !isWord words after
  | noWordBefore words => !isWord words before
  | noWordAfter words => !isWord words after
where
  isWord (words : CharSet) (c : Option Char) : Bool := c.any fun c => words.contains c.toNat

/-! ## Ways through a program -/

/-- Places remembered on the way. -/
abbrev Slots := Array (Option Nat)

/-- A way: the step that it is at, and what it remembers. -/
structure Way where
  step : Nat
  slots : Slots
deriving Inhabited

/-- The ways at one place, the best first, and the steps that were reached there. -/
structure Ways where
  seen : Array Bool
  found : Array Way := #[]

/-- Follows ways up to the steps that take a character. Each step is reached once, so twice as many
turns as there are steps are enough. -/
def follow (code : Code) (holds : Look → Bool) (place : Nat) : Nat → List Way → Ways → Ways
  | 0, _, ways => ways
  | _, [], ways => ways
  | turns + 1, way :: rest, ways =>
    if ways.seen.getD way.step true then follow code holds place turns rest ways
    else
      let ways := { ways with seen := ways.seen.setIfInBounds way.step true }
      match code.getD way.step .done with
      | .split first second =>
        follow code holds place turns ({ way with step := first } :: { way with step := second } :: rest) ways
      | .save slot next =>
        follow code holds place turns
          (⟨next, way.slots.setIfInBounds slot (some place)⟩ :: rest) ways
      | .look condition next =>
        if holds condition then follow code holds place turns ({ way with step := next } :: rest) ways
        else follow code holds place turns rest ways
      | _ => follow code holds place turns rest { ways with found := ways.found.push way }

def Program.follow (p : Program) (before after : Option Char) (place : Nat) (way : Way) (ways : Ways) :
    Ways :=
  Regex.follow p.code (·.holds before after) place (2 * p.code.size + 2) [way] ways

def Program.noWays (p : Program) : Ways := { seen := Array.replicate p.code.size false }

/-- The ways before the first one that is done, and what that one remembers. -/
def Program.cut (p : Program) : List Way → List Way × Option Slots
  | [] => ([], none)
  | way :: rest =>
    match p.code.getD way.step .done with
    | .done => ([], some way.slots)
    | _ =>
      let (kept, slots) := p.cut rest
      (way :: kept, slots)

/-- The ways after a character. -/
def Program.take (p : Program) (c : Char) (after : Option Char) (place : Nat) (ways : List Way) : Ways :=
  p.noWays |> ways.foldl fun out way =>
    match p.code.getD way.step .done with
    | .char chars next =>
      if chars.contains c.toNat then p.follow (some c) after place { way with step := next } out else out
    | _ => out

/-- The best match that the ways lead to, or the one that was found before. -/
def Program.run (p : Program) (place : Nat) (ways : List Way) (best : Option Slots) :
    List Char → Option Slots
  | [] => (p.cut ways).2 <|> best
  | c :: rest =>
    let (ways, found) := p.cut ways
    let best := found <|> best
    if ways.isEmpty then best
    else p.run (place + 1) (p.take c rest.head? (place + 1) ways).found.toList best rest

/-- A match: what is before it, what is in it, what follows, and the parts remembered. -/
structure Match where
  start : Nat
  stop : Nat
  slots : Slots

/-- The match that starts at a place, if there is one. -/
def Program.matchAt (p : Program) (groups : Nat) (place : Nat) (before : Option Char)
    (text : List Char) : Option Match := do
  let slots : Slots := Array.replicate (2 * groups + 2) none
  let ways := p.follow before text.head? place ⟨p.start, slots⟩ p.noWays
  let slots ← p.run place ways.found.toList none text
  return { start := place, stop := (slots.getD 1 none).getD place, slots := slots }

/-- The first match from a place on. -/
def Program.find (p : Program) (groups : Nat) (place : Nat) (before : Option Char) :
    List Char → Option Match
  | [] => p.matchAt groups place before []
  | c :: rest =>
    p.matchAt groups place before (c :: rest) <|> p.find groups (place + 1) (some c) rest

end Bundler.Regex
