import Bundler.Compilation
import Bundler.Text.Shown

/-!
# Hooks

Listeners are called at three points of a run, those of one point in the order in which they came.
They look at the run and cannot stop it.
-/

namespace Bundler

/-- What a listener sees. -/
structure Scene where
  options : Options
  root : Path
  /-- There from the second point on. -/
  compilation : Option Compilation := none

/-- A listener, with what it says about what it sees. -/
structure Listener (ε : Type) where
  name : String
  respond : Scene → List ε

/-- The listeners of one point. -/
abbrev Hook (ε : Type) := List (Listener ε)

namespace Hook

def names (hook : Hook ε) : List String := hook.map (·.name)

/-- What the listeners say, one after the other. -/
def call (hook : Hook ε) (scene : Scene) : List ε := hook.flatMap (·.respond scene)

def shown (hook : Hook ε) : String :=
  "SyncHook \x7b listeners: " ++ Text.shownList hook.names ++ " \x7d"

end Hook

/-- The points of a run. -/
inductive Point where
  /-- Before anything is built. -/
  | run
  /-- After all scripts are written, before they go to files. -/
  | emit
  /-- After they went to files. -/
  | done
deriving DecidableEq, Repr

def Point.name : Point → String
  | run => "run"
  | emit => "emit"
  | done => "done"

structure Hooks (ε : Type) where
  run : Hook ε := []
  emit : Hook ε := []
  done : Hook ε := []

namespace Hooks

def get (hooks : Hooks ε) : Point → Hook ε
  | .run => hooks.run
  | .emit => hooks.emit
  | .done => hooks.done

/-- The hooks with one listener more at a point. -/
def tap (hooks : Hooks ε) (point : Point) (listener : Listener ε) : Hooks ε :=
  match point with
  | .run => { hooks with run := hooks.run ++ [listener] }
  | .emit => { hooks with emit := hooks.emit ++ [listener] }
  | .done => { hooks with done := hooks.done ++ [listener] }

def shown (hooks : Hooks ε) : String :=
  "Hooks \x7b run: " ++ Hook.shown hooks.run ++ ", emit: " ++ Hook.shown hooks.emit ++
    ", done: " ++ Hook.shown hooks.done ++ " \x7d"

end Hooks

/-- Listeners that come together. -/
structure Plugin (ε : Type) where
  name : String
  listeners : List (Point × (Scene → List ε))

namespace Plugin

def apply (plugin : Plugin ε) (hooks : Hooks ε) : Hooks ε :=
  plugin.listeners.foldl (fun hooks (point, respond) => hooks.tap point ⟨plugin.name, respond⟩) hooks

/-- A plugin with what it says put in other words. -/
def map (f : ε → δ) (plugin : Plugin ε) : Plugin δ :=
  { name := plugin.name
    listeners := plugin.listeners.map fun (point, respond) => (point, fun scene => (respond scene).map f) }

end Plugin
end Bundler
