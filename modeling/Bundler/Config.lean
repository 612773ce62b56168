import Bundler.Log
import Bundler.Options.Reader
import Bundler.Trace

/-!
# The config file

Options come from a file in the root of the project; what the user asks for goes before them.
-/

namespace Bundler.Config

def fileName : String := "rpack.config.json"

/-- The options in a file that must be there. -/
def read (files : Files) (path : Path) : Trace Log.Message Options := do
  .tell [.debug s!"Loading config from {path.text}"]
  match files.read path with
  | .error fault => .fail (.io path fault)
  | .ok text =>
    match Options.parse text with
    | .error problem => .fail (.config s!"Failed to parse {path.text}: {problem}")
    | .ok options =>
      .tell [.debug "✅ Config file loaded successfully"]
      return options

/-- The options in the config file of a project, if it has one. -/
def find (files : Files) (root : Path) : Trace Log.Message (Option Options) := do
  let path := root.child fileName
  if files.has path then return some (← read files path)
  else
    .tell [.debug s!"No {fileName} found, using defaults"]
    return none

/-- The options in a file of the project that the user names, or else in its config file. -/
def load (files : Files) (root : Path) : Option String → Trace Log.Message (Option Options)
  | some path => some <$> read files (root.child path)
  | none => find files root

/-- An entry as the user writes it: a name and a path, or only a path. -/
def entryOf (arg : String) : Except Error (String × String) :=
  let name := arg.toList.takeWhile (· != '=')
  match arg.toList.drop name.length with
  | [] => .ok (Entry.defaultName, arg)
  | _ :: path =>
    if name.isEmpty || path.isEmpty then
      .error (.config s!"Invalid --entry '{arg}', expected NAME=PATH")
    else .ok (String.ofList name, String.ofList path)

/-- Options with what the user asks for put in: the root that the context is taken from, entries in
place of those in the options, the folder and the template for the bundles. -/
def merge (options : Options) (root : Path) (entries : List (String × String))
    (folder filename : Option String) : Options :=
  { options with
    context := some (match options.context with
      | some context => root.join context
      | none => root)
    entry :=
      if entries.isEmpty then options.entry
      else .named (entries.foldl (fun known (name, path) => upsert name path known) [])
    output :=
      { folder := (folder.map Path.mk).getD options.output.folder
        filename := filename.getD options.output.filename } }

/-- A config file to start from. -/
def sample : String := "\n".intercalate [
  "\x7b",
  "  \"entry\": \x7b",
  "    \"main\": \"./src/index.js\"",
  "  \x7d,",
  "  \"module\": \x7b",
  "    \"rules\": [",
  "      \x7b \"test\": \"\\\\.js$\", \"use\": [\"strip-debug\"] \x7d",
  "    ]",
  "  \x7d,",
  "  \"loaders\": [",
  "    \x7b \"name\": \"strip-debug\", " ++
    "\"pattern\": \"console\\\\.debug\\\\([^)]*\\\\);?\", \"replacement\": \"\" \x7d",
  "  ],",
  "  \"resolve\": \x7b",
  "    \"extensions\": [\".js\", \".json\"]",
  "  \x7d,",
  "  \"output\": \x7b",
  "    \"path\": \"dist\",",
  "    \"filename\": \"[name].js\"",
  "  \x7d",
  "\x7d"]

end Bundler.Config
