import Bundler.Event

/-!
# The log
-/

namespace Bundler.Log

inductive Level where
  | error
  | warn
  | info
  | debug
  | trace
deriving DecidableEq, Repr

namespace Level

def rank : Level → Nat
  | error => 1
  | warn => 2
  | info => 3
  | debug => 4
  | trace => 5

def name : Level → String
  | error => "ERROR"
  | warn => "WARN"
  | info => "INFO"
  | debug => "DEBUG"
  | trace => "TRACE"

end Level

/-- A message for the log. -/
structure Message where
  level : Level
  text : String
deriving DecidableEq, Repr

def Message.info (text : String) : Message := ⟨.info, text⟩

def Message.debug (text : String) : Message := ⟨.debug, text⟩

/-- What the log says of an event; `time` is how long a part of the work took. -/
def ofEvent (time : String) : Event → List Message
  | .visited _ => []
  | .opened _ => []
  | .loaded path count => [.debug s!"⚡ Applied {count} loader(s) to {path.text}"]
  | .built id entry count => [.debug s!"🔍 Built {id} for '{entry}' ({count} deps)"]
  | .reused id entry => [.debug s!"♻️  Reusing {id} for '{entry}'"]
  | .assembled name count => [.debug s!"📦 Chunk '{name}': {count} modules"]
  | .started work => [.debug s!"⏱️  Starting: {work}"]
  | .finished work => [.debug s!"⏱️  Completed: {work} in {time}"]

/-! ## Filters -/

/-- Up to which level, and nothing at all where there is none, the parts of the program under a
name may speak. -/
structure Directive where
  target : String := ""
  level : Option Level
deriving DecidableEq, Repr

/-- What the log lets through. -/
abbrev Filter := List Directive

namespace Filter

/-- The level that a word stands for. -/
def level? (word : String) : Option (Option Level) :=
  match String.ofList (word.toList.map Char.toLower) with
  | "off" => some none
  | "0" => some none
  | "error" => some (some .error)
  | "1" => some (some .error)
  | "warn" => some (some .warn)
  | "2" => some (some .warn)
  | "info" => some (some .info)
  | "3" => some (some .info)
  | "debug" => some (some .debug)
  | "4" => some (some .debug)
  | "trace" => some (some .trace)
  | "5" => some (some .trace)
  | _ => none

/-- What a directive can start with. -/
def isStart (c : Char) : Bool := c.isAlphanum || c = '-' || c = ':' || c = '_'

/-- A level for all parts, a part that may say all, or a part with its level. -/
def directive? (text : String) : Option Directive :=
  if !text.toList.head?.any isStart then none
  else
    match text.splitOn "=" with
    | [word] =>
      match level? word with
      | some level => some { level := level }
      | none => some { target := word, level := some .trace }
    | [target, ""] => some { target := target, level := some .trace }
    | [target, word] => (level? word).map fun level => { target := target, level := level }
    | _ => none

/-- The filter that a text stands for. An empty one lets errors through. -/
def parse? (text : String) : Option Filter := do
  let directives ← ((text.splitOn ",").filter fun part => !part.isEmpty).mapM directive?
  return if directives.isEmpty then [{ level := some .error }] else directives

/-- Of the directives for a part of the program, that with the longest name; the later of two with
one name. -/
def best (filter : Filter) (part : String) : Option Directive :=
  filter.foldl (fun best d =>
    if d.target.toList.isPrefixOf part.toList then
      match best with
      | some b => if b.target.length ≤ d.target.length then some d else some b
      | none => some d
    else best) none

/-- Whether a part of the program may say something of a level. -/
def allows (filter : Filter) (part : String) (level : Level) : Bool :=
  match (filter.best part).bind (·.level) with
  | some most => level.rank ≤ most.rank
  | none => false

/-- The filter of the environment, or else that for how much the user wants to see. -/
def choose (environment : Option String) (verbose : Bool) : Filter :=
  match environment.bind parse? with
  | some filter => filter
  | none => [{ target := "rpack", level := some (if verbose then .debug else .info) }]

end Filter
end Bundler.Log
