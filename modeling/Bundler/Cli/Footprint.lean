import Bundler.Cli.Command

/-!
# The files that a build looks at

A build is given the files that it looks at. Which these are shows as it goes: what a file asks for
is known once the file is there. So files are added round by round until no new ones are asked for.
-/

namespace Bundler

/-- What the file of a specifier depends on, in the files that are known. -/
def Resolver.footprint (r : Resolver) (files : Files) (base : Path) (specifier : String) : List Path :=
  let around (p : Path) : List Path := r.spellings p ++ r.spellings (p.child "index")
  if isBare specifier then
    base.ancestors.flatMap fun folder =>
      let modules := folder.child "node_modules"
      let target := (modules.child specifier).normal
      let main := (packageMain files target).toList.flatMap fun main => around (target.child main).normal
      [modules, target.child "package.json"] ++ around target ++ main
  else around (base.child specifier).normal

/-- What the module of a file depends on. -/
def Project.footprint (p : Project) (files : Files) (path : Path) : List Path :=
  let asked : List String :=
    match p.load files path with
    | .ok text =>
      match scan path text with
      | .ok found => found.requires.map (·.specifier)
      | .error _ => []
    | .error _ => []
  path.ancestors ++ asked.flatMap (p.resolver.footprint files (path.parent?.getD p.root))

namespace Cli

/-- What a compilation depends on: the files that it opens and what they ask for. -/
def compileFootprint (options : Options) (files : Files) (current : Path) : List Path :=
  let found : Except Error (List Path) := do
    let loaders ← Registry.ofSubstitutions options.loaders
    let pipeline ← Pipeline.ofRules loaders options.rules
    let project : Project :=
      { root := options.root current, resolver := ⟨options.extensions⟩, pipeline := pipeline }
    let t := Compilation.compile options loaders files current
    let opened := t.events.flatMap fun
      | .opened path => project.footprint files path
      | _ => []
    let folder := options.outputFolder current
    let written := match t.result with
      | .ok c => c.assets.flatMap fun (file, _) => (folder.join ⟨file⟩).ancestors
      | .error _ => []
    return opened ++ folder.ancestors ++ written
  match found with
  | .ok paths => paths
  | .error _ => []

/-- What a command depends on. -/
def footprint (files : Files) (current : Path) : Command → List Path
  | .info => []
  | .build args =>
    let root : Path := ⟨args.root⟩
    let config := root.child (args.config.getD Config.fileName)
    current.ancestors ++ config.ancestors ++
      match (options files args).result with
      | .ok options => compileFootprint options files current
      | .error _ => []

end Cli

/-! ## Changes -/

namespace Node

mutual

/-- The files and folders in a tree, each folder before what is in it; a file comes with its bytes. -/
def listing (path : Path) : Node → List (Path × Option ByteArray)
  | .file bytes => [(path, some bytes)]
  | .folder children => (path, none) :: listingOf path children

def listingOf (path : Path) : List (String × Node) → List (Path × Option ByteArray)
  | [] => []
  | (name, node) :: rest => node.listing (path.child name) ++ listingOf path rest

end

end Node

namespace Files

/-- What is in these files that is not, or not the same, in others. -/
def changesFrom (old new : Files) : List (Path × Option ByteArray) :=
  (new.tree.listing ⟨"/"⟩).filter fun (path, content) =>
    match old.node path, content with
    | .ok (.folder _), none => false
    | .ok (.file bytes), some new => bytes != new
    | _, _ => true

/-- The files with what was found at a path. -/
def put (files : Files) (path : Path) (node : Node) : Files :=
  let here : Path := ⟨"/" ++ "/".intercalate files.current⟩
  let names := (here.join path).normal.components.filterMap fun
    | .name s => some s
    | _ => none
  { files with tree := node.put names files.tree }

end Files
end Bundler
