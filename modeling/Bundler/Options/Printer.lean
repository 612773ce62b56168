import Bundler.Json.Printer
import Bundler.Options.Basic

/-!
# Options as JSON

What is left out is what reads back as left out.
-/

namespace Bundler

def Rule.toJson (rule : Rule) : Json :=
  .object <|
    [("test", .text rule.test)] ++
    (rule.loader.toList.map fun name => ("loader", .text name)) ++
    (if rule.uses.isEmpty then [] else [("use", .texts rule.uses)])

def Substitution.toJson (loader : Substitution) : Json :=
  .object [
    ("name", .text loader.name),
    ("pattern", .text loader.pattern),
    ("replacement", .text loader.replacement)]

def Entry.toJson : Entry → Json
  | single path => .text path
  | named paths => .object (paths.map fun (name, path) => (name, .text path))

def Output.toJson (output : Output) : Json :=
  .object [("path", .text output.folder.text), ("filename", .text output.filename)]

def Options.toJson (options : Options) : Json :=
  .object <|
    (options.context.toList.map fun root => ("context", .text root.text)) ++
    [("entry", options.entry.toJson),
     ("module", .object [("rules", .list (options.rules.map Rule.toJson))]),
     ("resolve", .object [("extensions", .texts options.extensions)]),
     ("output", options.output.toJson)] ++
    (if options.loaders.isEmpty then []
     else [("loaders", .list (options.loaders.map Substitution.toJson))])

end Bundler
