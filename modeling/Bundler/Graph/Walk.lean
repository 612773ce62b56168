import Bundler.Counting
import Bundler.Graph.Basic

/-!
# The walk through the graph

A walk from the file of an entry looks at every file that it leads to. It ends for this reason:
only a path that is short enough can be read, so only so many files can be added; between two that
are added, a module gets an owner, or nothing changes and one file less is left to look at.
-/

namespace Bundler.Graph

/-! ## What is left to do -/

/-- All characters. -/
noncomputable def everyChar : List Char := (List.range 0x110000).map Char.ofNat

/-- All texts of so many characters at most. -/
noncomputable def everyText : Nat → List (List Char)
  | 0 => [[]]
  | n + 1 => [] :: everyChar.flatMap fun c => (everyText n).map (c :: ·)

theorem mem_everyChar (c : Char) : c ∈ everyChar := by
  refine List.mem_map.2 ⟨c.toNat, ?_, Char.ofNat_toNat c⟩
  have := c.valid
  simp only [List.mem_range]
  rcases this with h | ⟨_, h⟩
  · simp only [Char.toNat]; omega
  · simp only [Char.toNat]; omega

theorem mem_everyText {text : List Char} {n : Nat} (h : text.length ≤ n) : text ∈ everyText n := by
  induction n generalizing text with
  | zero => simp_all [everyText]
  | succ n ih =>
    cases text with
    | nil => simp [everyText]
    | cons c rest =>
      simp only [everyText, List.mem_cons, reduceCtorEq, false_or, List.mem_flatMap, List.mem_map]
      exact ⟨c, mem_everyChar c, rest, ih (by simpa using h), rfl⟩

/-- How many paths that can be read are not in the graph. -/
noncomputable def absent (g : Graph) : Nat :=
  (everyText Files.maxPath).countP fun text => (g.find? ⟨String.ofList text⟩).isNone

/-- How many modules do not have an owner. -/
def unowned (g : Graph) (entry : String) : Nat := g.modules.countP fun m => !m.ownedBy entry

theorem find?_add (g : Graph) (m : Module) (path : Path) :
    (g.add m).find? path = (g.find? path).or (if m.path.same path then some m else none) := by
  simp only [find?, add, List.find?_append, List.find?_cons, List.find?_nil]
  cases m.path.same path <;> rfl

theorem absent_add_lt {g : Graph} {m : Module} (new : g.find? m.path = none)
    (short : m.path.text.length ≤ Files.maxPath) : absent (g.add m) < absent g := by
  have mem : m.path.text.toList ∈ everyText Files.maxPath :=
    mem_everyText (by rwa [String.length_toList])
  refine countP_lt_countP (fun text _ => ?_) mem ?_ ?_
  · cases h : g.find? ⟨String.ofList text⟩ <;> simp [find?_add, h]
  · simp [new]
  · simp [find?_add, Path.same]

theorem find?_addOwner (g : Graph) (path : Path) (entry : String) (q : Path) :
    (g.addOwner path entry).find? q =
      (g.find? q).map fun m => if m.path.same path then m.addOwner entry else m := by
  simp only [find?, addOwner, List.find?_map]
  congr 2
  funext m
  by_cases h : m.path.same path <;> simp [h, Module.addOwner]

theorem absent_addOwner (g : Graph) (path : Path) (entry : String) :
    absent (g.addOwner path entry) = absent g := by
  simp [absent, find?_addOwner]

theorem unowned_addOwner_lt {g : Graph} {path : Path} {m : Module} {entry : String}
    (found : g.find? path = some m) (new : ¬ m.ownedBy entry) :
    unowned (g.addOwner path entry) entry < unowned g entry := by
  simp only [unowned, addOwner, List.countP_map]
  refine countP_lt_countP (fun x _ => ?_) (List.mem_of_find?_eq_some found) (by simp [new]) ?_
  · by_cases h : x.path.same path <;> simp [h, Module.ownedBy, Module.addOwner]
  · have : m.path.same path := by simpa using List.find?_some found
    simp [this, Module.ownedBy, Module.addOwner]

/-- What is looked at either adds a module, or an owner, or changes nothing. -/
theorem visit_progress {p : Project} {files : Files} {entry : String} {g g' : Graph} {path : Path}
    {next : List Path} (h : (visit p files entry g path).result = .ok (g', next)) :
    absent g' < absent g ∨
      (absent g' = absent g ∧ unowned g' entry < unowned g entry) ∨ (g' = g ∧ next = []) := by
  unfold visit at h
  split at h
  · next m found =>
    split at h
    · simp_all
    · next new =>
      simp only [Except.ok.injEq, Prod.mk.injEq] at h
      obtain ⟨rfl, rfl⟩ := h
      exact .inr (.inl ⟨absent_addOwner .., unowned_addOwner_lt found new⟩)
  · next missing =>
    split at h
    · simp at h
    · next text loaded =>
      split at h
      · simp at h
      · simp only [Except.ok.injEq, Prod.mk.injEq] at h
        obtain ⟨rfl, rfl⟩ := h
        exact .inl (absent_add_lt missing (Project.length_le_of_load loaded))

/-! ## The walk -/

/-- The graph at the end of a walk, what happened on it, and whether it came to its end. -/
structure Walk where
  graph : Graph
  events : List Event
  result : Except Error Unit

/-- Looks at files for an entry, the first of them first, and at those they lead to before the
others. It stops where one cannot be built. -/
def walk (p : Project) (files : Files) (entry : String) (g : Graph) : List Path → Walk
  | [] => ⟨g, [], .ok ()⟩
  | path :: rest =>
    let visit := visit p files entry g path
    match _result : visit.result with
    | .error e => ⟨g, .visited path :: visit.events, .error e⟩
    | .ok (g, next) =>
      let walk := walk p files entry g (next ++ rest)
      { walk with events := .visited path :: visit.events ++ walk.events }
termination_by pending => (absent g, unowned g entry, pending.length)
decreasing_by
  rcases visit_progress _result with h | ⟨h, h'⟩ | ⟨rfl, rfl⟩
  · exact .left _ _ h
  · rw [h]
    exact .right _ (.left _ _ h')
  · exact .right _ (.right _ (by simp))

/-! ## Building -/

/-- The graph after a build, what happened, and what was built or why it was not. -/
structure Build (α : Type) where
  graph : Graph
  events : List Event
  result : Except Error α

/-- Builds the module of a file for an entry, with all that it leads to. What was built before a
failure stays. -/
def build (p : Project) (files : Files) (g : Graph) (entry : String) (path : Path) : Build Module :=
  let path := path.normal
  let walk := walk p files entry g [path]
  { graph := walk.graph
    events := walk.events
    result := do
      walk.result
      match walk.graph.find? path with
      | some m => return m
      | none => throw (.unknownModule (Path.idFrom p.root path)) }

/-- Builds the modules of entries one after the other, and gives the id of each. -/
def buildEntries (p : Project) (files : Files) (g : Graph) :
    List (String × Path) → Build (List (String × String))
  | [] => ⟨g, [], .ok []⟩
  | (name, path) :: rest =>
    let first := build p files g name path
    match first.result with
    | .error e => ⟨first.graph, first.events, .error e⟩
    | .ok m =>
      let others := buildEntries p files first.graph rest
      { graph := others.graph
        events := first.events ++ others.events
        result := ((name, m.id) :: ·) <$> others.result }

end Bundler.Graph
