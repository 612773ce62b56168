import Bundler.Cli.Arguments
import Bundler.Config
import Bundler.Json.Printer
import Bundler.Run
import Bundler.Stats

/-!
# Commands
-/

namespace Bundler.Cli

/-- What is printed: messages of the log, by the part of the program that they come from, and texts
that are no messages. -/
inductive Output where
  | message (part : String) (message : Log.Message)
  | text (text : String)
deriving DecidableEq, Repr

namespace Output

/-- The part of the program that most messages come from. -/
def logPart : String := "rpack::utils::logging"

def log (m : Log.Message) : Output := .message logPart m

/-- The lines that a filter lets through. -/
def render (filter : Log.Filter) : List Output → List String
  | [] => []
  | message part m :: rest =>
    if filter.allows part m.level then (m.level.name ++ " " ++ m.text) :: render filter rest
    else render filter rest
  | text t :: rest => t :: render filter rest

end Output

/-- The options of a build, from the config file and the arguments. -/
def options (files : Files) (args : BuildArgs) : Trace Log.Message Options := do
  let root : Path := ⟨args.root⟩
  let found ← Config.load files root args.config
  let entries ← .ofExcept (args.entries.mapM Config.entryOf)
  return Config.merge (found.getD {}) root entries args.folder args.filename

/-- A build: the options, the loaders, the run, and at the end its summary if that is asked for.
`time` is how long things take. -/
def build (time : String) (current : Path) (args : BuildArgs) : Action Files Output Unit := do
  let files ← .look
  let options ← .ofTrace ((options files args).map Output.log)
  let loaders ← .ofTrace (.ofExcept (Registry.ofSubstitutions options.loaders))
  let compiler : Compiler Log.Message := { options := options, loaders := loaders }
  let compilation ← .flatMap (fun event => (event.messages time).map Output.log)
    ((compiler.withPlugin (Stats.plugin args.verbose)).run files current Files.sink)
  if args.json then .tell [.text compilation.toJson.sorted.pretty]

def version : String := "0.1.0"

/-- What the program is. -/
def info : List Output :=
  [s!"🦀 rpack v{version}",
   "══════════════════════════════════════",
   "📦 CommonJS bundler: one self-contained script per entry",
   "",
   "🏗️  Pipeline:",
   "  • Resolve specifiers with extension, index and node_modules probing",
   "  • Run configured loaders on each source file",
   "  • Find require() calls with the oxc parser",
   "  • Build a deduplicated module graph",
   "  • Emit one chunk per entry with a small require runtime",
   "",
   s!"⚙️  Config: {Config.fileName}",
   Config.sample].map fun text => .message "rpack::cli::commands" (.info text)

/-- How the program ends: its exit code, what it prints, and what it complains of. -/
structure Ending where
  code : Nat
  printed : List String := []
  usage : Option Usage := none
  error : Option Error := none

/-- The exit code of a program that was asked for help is not that of one that was misused. -/
def Usage.code : Usage → Nat
  | .help => 0
  | _ => 2

/-- Runs the program in a folder with its arguments. `environment` is the filter for the log. -/
def run (time : String) (environment : Option String) (current : Path) (args : List String)
    (files : Files) : Ending × Files :=
  match Command.ofArgs args with
  | .error usage => ({ code := usage.code, usage := some usage }, files)
  | .ok .info => ({ code := 0, printed := Output.render (.choose environment false) info }, files)
  | .ok (.build args) =>
    let (t, files) := build time current args files
    let printed := Output.render (.choose environment args.verbose) t.events
    match t.result with
    | .ok () => ({ code := 0, printed := printed }, files)
    | .error e => ({ code := 1, printed := printed, error := some e }, files)

end Bundler.Cli
