import Bundler.Hooks
import Bundler.Log

/-!
# Statistics in the log
-/

namespace Bundler.Stats

/-- Where the build started. -/
def began (verbose : Bool) (scene : Scene) : List Log.Message :=
  if verbose then [.info s!"📊 Stats Plugin: Build started in {scene.root.text}"] else []

/-- How much was built; with `verbose` also what each chunk holds. -/
def report (verbose : Bool) (scene : Scene) : List Log.Message :=
  match scene.compilation with
  | none => []
  | some c =>
    [.info "📊 Stats Plugin: Build Statistics",
     .info s!"  📦 Modules: {c.modules.length}",
     .info s!"  🧩 Chunks: {c.chunks.length}",
     .info s!"  📂 Assets: {c.assets.length}"] ++
    (if verbose then
      c.chunks.map fun chunk =>
        let ids := ", ".intercalate chunk.ids
        .info s!"  • {chunk.name} -> {ids}"
    else [])

def plugin (verbose : Bool) : Plugin Log.Message :=
  { name := "stats-plugin"
    listeners := [(.run, began verbose), (.done, report verbose)] }

end Bundler.Stats
