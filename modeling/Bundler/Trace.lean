import Bundler.Error

/-!
# Work with a trace

Work gives a result or fails; either way what happened on the way is known.
-/

namespace Bundler

/-- What happened, and what came of it. -/
structure Trace (ε α : Type) where
  events : List ε
  result : Except Error α

namespace Trace

def ret (a : α) : Trace ε α := ⟨[], .ok a⟩

/-- One piece of work after another; the second is not done if the first fails. -/
def andThen (t : Trace ε α) (f : α → Trace ε β) : Trace ε β :=
  match t.result with
  | .ok a => ⟨t.events ++ (f a).events, (f a).result⟩
  | .error e => ⟨t.events, .error e⟩

instance : Monad (Trace ε) where
  pure := ret
  bind := andThen

def fail (e : Error) : Trace ε α := ⟨[], .error e⟩

def ofExcept (result : Except Error α) : Trace ε α := ⟨[], result⟩

def tell (events : List ε) : Trace ε Unit := ⟨events, .ok ()⟩

def map (f : ε → δ) (t : Trace ε α) : Trace δ α := ⟨t.events.map f, t.result⟩

end Trace

/-- Work on something that it changes: also where it fails, the changes so far stay. -/
def Action (σ ε α : Type) : Type := σ → Trace ε α × σ

namespace Action

def ret (a : α) : Action σ ε α := fun s => (.ret a, s)

def andThen (p : Action σ ε α) (f : α → Action σ ε β) : Action σ ε β := fun s =>
  let (t, s) := p s
  match t.result with
  | .ok a =>
    let (u, s) := f a s
    (⟨t.events ++ u.events, u.result⟩, s)
  | .error e => (⟨t.events, .error e⟩, s)

instance : Monad (Action σ ε) where
  pure := ret
  bind := andThen

/-- Work that changes nothing. -/
def ofTrace (t : Trace ε α) : Action σ ε α := fun s => (t, s)

def tell (events : List ε) : Action σ ε Unit := ofTrace (.tell events)

/-- What the work is done on, as it is now. -/
def look : Action σ ε σ := fun s => (.ret s, s)

/-- The work with its events put in other words. -/
def flatMap (f : ε → List δ) (p : Action σ ε α) : Action σ δ α := fun s =>
  let (t, s) := p s
  (⟨t.events.flatMap f, t.result⟩, s)

/-- An event, and then a change that may fail. -/
def change (event : ε) (f : σ → σ × Except Error α) : Action σ ε α := fun s =>
  let (s, result) := f s
  (⟨[event], result⟩, s)

end Action
end Bundler
