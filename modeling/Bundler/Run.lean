import Bundler.Hooks
import Bundler.Log

/-!
# Runs

A run compiles and puts the scripts into files, with the listeners called on the way. Nothing is
put into a file before all scripts are there.
-/

namespace Bundler

/-- Where scripts go. -/
structure Sink (σ : Type) where
  has : σ → Path → Bool
  makeFolder : σ → Path → σ × Except Error Unit
  write : σ → Path → String → σ × Except Error Unit

/-- Files as a place for scripts: the folders above a file are made with it. -/
def Files.sink : Sink Files where
  has := Files.has
  makeFolder := make
  write files path text :=
    let put (files : Files) : Files × Except Error Unit :=
      match files.writeOne path text with
      | .ok files => (files, .ok ())
      | .error fault => (files, .error (.io path fault))
    match path.parent? with
    | none => put files
    | some parent =>
      match make files parent with
      | (files, .ok ()) => put files
      | (files, .error e) => (files, .error e)
where
  make (files : Files) (path : Path) : Files × Except Error Unit :=
    match files.makeFolder path with
    | (files, .ok ()) => (files, .ok ())
    | (files, .error fault) => (files, .error (.io path fault))

/-- What happens in a run. -/
inductive RunEvent (ε : Type) where
  | step (event : Event)
  | began (root : Path) (entries : Nat)
  /-- A listener says something. -/
  | heard (said : ε)
  /-- It is asked whether a folder is there. -/
  | looked (folder : Path)
  | made (folder : Path)
  | wrote (path : Path) (text : String)
  /-- A script of so many bytes is in its file. -/
  | emitted (file : String) (size : Nat)
  | ended (modules chunks : Nat) (folder : Path)

/-- A build that can be run: its options, its loaders, and who listens. -/
structure Compiler (ε : Type) where
  options : Options
  loaders : Registry := {}
  hooks : Hooks ε := {}
  plugins : List String := []

namespace Compiler

def withPlugin (c : Compiler ε) (plugin : Plugin ε) : Compiler ε :=
  { c with hooks := plugin.apply c.hooks, plugins := c.plugins ++ [plugin.name] }

/-- Calls the listeners of a point. -/
def call (c : Compiler ε) (current : Path) (point : Point) (compilation : Option Compilation) :
    Action σ (RunEvent ε) Unit :=
  let scene := { options := c.options, root := c.options.root current, compilation := compilation }
  .tell (((c.hooks.get point).call scene).map .heard)

/-- Makes the folder for the scripts, unless it is there. -/
def prepare (sink : Sink σ) (folder : Path) : Action σ (RunEvent ε) Unit := fun s =>
  let present := sink.has s folder
  Action.andThen (.tell [.looked folder]) (fun _ =>
    if present then .ret () else .change (.made folder) (sink.makeFolder · folder)) s

/-- Puts scripts into their files, one after the other. -/
def writeAll (sink : Sink σ) (folder : Path) : List (String × String) → Action σ (RunEvent ε) Unit
  | [] => return ()
  | (file, script) :: rest => do
    let path := folder.join ⟨file⟩
    Action.change (.wrote path script) (sink.write · path script)
    .tell [.emitted file (Text.size script.toList)]
    writeAll sink folder rest

/-- Work between two events that frame it. -/
def timed (work : String) (p : Action σ (RunEvent ε) α) : Action σ (RunEvent ε) α := fun s =>
  let (t, s) := p s
  (⟨.step (.started work) :: t.events ++ [.step (.finished work)], t.result⟩, s)

/-- A whole run. -/
def run (c : Compiler ε) (files : Files) (current : Path) (sink : Sink σ) :
    Action σ (RunEvent ε) Compilation := timed "Build" do
  let root := c.options.root current
  .tell [.began root (c.options.entry.files root).length]
  c.call current .run none
  let compilation ← .ofTrace ((Compilation.compile c.options c.loaders files current).map .step)
  c.call current .emit (some compilation)
  let folder := c.options.outputFolder current
  prepare sink folder
  writeAll sink folder compilation.assets
  c.call current .done (some compilation)
  .tell [.ended compilation.modules.length compilation.chunks.length folder]
  return compilation

end Compiler

/-! ## The log of a run -/

namespace RunEvent

/-- What the log says of what happens; listeners speak in messages of their own. -/
def messages (time : String) : RunEvent Log.Message → List Log.Message
  | step event => Log.ofEvent time event
  | began root entries => [
      .info "🔨 rpack - Bundling",
      .info s!"📁 Context: {root.text}",
      .info s!"🎯 Entries: {entries}"]
  | heard message => [message]
  | looked _ => []
  | made _ => []
  | wrote _ _ => []
  | emitted file size => [.info s!"  • {file} ({size} bytes)"]
  | ended modules chunks folder => [
      .info "📊 Build Statistics:",
      .info s!"  • Modules: {modules}",
      .info s!"  • Chunks: {chunks}",
      .info s!"  • Build time: {time}",
      .info s!"  • Output directory: {folder.text}",
      .info "✅ Build completed successfully!"]

end RunEvent
end Bundler
