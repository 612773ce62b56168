import Bundler.Json.Reader
import Bundler.Options.Basic

/-!
# Reading options from JSON

Every record may be left out or cut short where its fields have defaults.
-/

namespace Bundler.Options

open Json

/-- A field that must be there. -/
def needed (name : String) (value : Reader α) (put : α → ρ → ρ) : Reader.Field ρ :=
  { name := name, read := do return put (← value), required := true }

/-- A field that may be left out. -/
def optional (name : String) (value : Reader α) (put : α → ρ → ρ) : Reader.Field ρ :=
  { name := name, read := do return put (← value) }

def string : Reader String := Reader.text "a string"

def path : Reader Path := do return ⟨← Reader.text "path string"⟩

def readRule : Reader Rule :=
  Reader.record "RuleConfig" [
    needed "test" string fun v r => { r with test := v },
    optional "loader" (.option string) fun v r => { r with loader := v },
    optional "use" (.sequence string) fun v r => { r with uses := v }] default

def readSubstitution : Reader Substitution :=
  Reader.record "RegexLoaderConfig" [
    needed "name" string fun v r => { r with name := v },
    needed "pattern" string fun v r => { r with pattern := v },
    optional "replacement" string fun v r => { r with replacement := v }] default

/-- The entries of an object whose values are texts; the last value of a name counts. -/
def namedEntries? : List (String × Json) → List (String × String) → Option (List (String × String))
  | [], found => some found
  | (name, .text path) :: rest, found => namedEntries? rest (upsert name path found)
  | _, _ => none

/-- The entries that a value stands for. -/
def entryOf? : Json → Option Entry
  | .text path => some (.single path)
  | .object fields => (namedEntries? fields []).map .named
  | _ => none

/-- The value is read whole before it is known whether it gives entries. -/
def readEntry : Reader Entry := do
  match entryOf? (← Reader.valueAt (Reader.maxDepth - 1)) with
  | some entry => return entry
  | none => Reader.failLater (.noVariant "EntryConfig")

def readRules : Reader (List Rule) :=
  Reader.record "ModuleOptions" [optional "rules" (.sequence readRule) fun v _ => v] []

def readExtensions : Reader (List String) :=
  Reader.record "ResolveOptions" [optional "extensions" (.sequence string) fun v _ => v]
    ({} : Options).extensions

def readOutput : Reader Output :=
  Reader.record "OutputOptions" [
    optional "path" path fun v r => { r with folder := v },
    optional "filename" string fun v r => { r with filename := v }] {}

def reader : Reader Options :=
  Reader.record "BundlerOptions" [
    optional "context" (.option path) fun v r => { r with context := v },
    optional "entry" readEntry fun v r => { r with entry := v },
    optional "module" readRules fun v r => { r with rules := v },
    optional "resolve" readExtensions fun v r => { r with extensions := v },
    optional "output" readOutput fun v r => { r with output := v },
    optional "loaders" (.sequence readSubstitution) fun v r => { r with loaders := v }] {}

/-- The options that a text stands for. -/
def parse (source : String) : Except String Options := Reader.run reader source

end Bundler.Options
