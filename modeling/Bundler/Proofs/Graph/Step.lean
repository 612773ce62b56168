import Bundler.Graph.Walk
import Bundler.Proofs.Project
import Bundler.Proofs.Table

/-!
# One look at a file, and a walk of many

A look at a file finds its module with the owner, gives the module a new owner, or adds it; it fails
only where nothing can be found in the file. What every look keeps, a walk keeps.
-/

namespace Bundler.Graph

variable {p : Project} {files : Files} {entry : String} {g g' : Graph} {path : Path}

/-- All that a look at a file can do. -/
theorem visit_ok {next : List Path} (h : (visit p files entry g path).result = .ok (g', next)) :
    (∃ m, g.find? path = some m ∧ m.ownedBy entry ∧ g' = g ∧ next = []) ∨
    (∃ m, g.find? path = some m ∧ ¬ m.ownedBy entry ∧ g' = g.addOwner path entry ∧
      next = m.dependencies.filterMap g.pathOf?) ∨
    (∃ a, g.find? path = none ∧ p.analyse files path = .ok a ∧ g' = g.add (p.moduleOf path entry a) ∧
      next = a.dependencies.map (·.path)) := by
  unfold visit at h
  split at h
  · next m hm =>
    split at h
    · next hown =>
      simp only [Except.ok.injEq, Prod.mk.injEq] at h
      exact .inl ⟨m, hm, hown, h.1.symm, h.2.symm⟩
    · next hown =>
      simp only [Except.ok.injEq, Prod.mk.injEq] at h
      exact .inr (.inl ⟨m, hm, hown, h.1.symm, h.2.symm⟩)
  · next hm =>
    split at h
    · cases h
    · next text hload =>
      simp only at h
      split at h
      · cases h
      · next a ha =>
        simp only [Except.ok.injEq, Prod.mk.injEq] at h
        exact .inr (.inr ⟨a, hm, bind_eq_ok.2 ⟨text, hload, ha⟩, h.1.symm, h.2.symm⟩)

theorem visit_error {e : Error} (h : (visit p files entry g path).result = .error e) :
    g.find? path = none ∧ p.analyse files path = .error e := by
  unfold visit at h
  split at h
  · split at h <;> cases h
  · next hm =>
    refine ⟨hm, ?_⟩
    split at h
    · next hload =>
      cases h
      exact bind_eq_error.2 (.inl hload)
    · next text hload =>
      simp only at h
      split at h
      · next ha =>
        cases h
        exact bind_eq_error.2 (.inr ⟨text, hload, ha⟩)
      · cases h

/-- All that can happen during a look: a module gets an owner, or its file is read first. -/
theorem visit_events (p : Project) (files : Files) (entry : String) (g : Graph) (path : Path) :
    (∃ m, g.find? path = some m ∧ ∀ event ∈ (visit p files entry g path).events, event = .reused m.id entry) ∨
    g.find? path = none ∧ ∃ more, (visit p files entry g path).events = .opened path :: more ∧
      ∀ event ∈ more, (∃ count, event = .loaded path count) ∨ ∃ id count, event = .built id entry count := by
  unfold visit
  cases g.find? path with
  | some m =>
    refine .inl ⟨m, rfl, ?_⟩
    simp only
    split <;> simp
  | none =>
    refine .inr ⟨rfl, ?_⟩
    have hloaded : ∀ event ∈ (if (p.pipeline.loadersFor path).length = 0 then []
        else [Event.loaded path (p.pipeline.loadersFor path).length]), ∃ count, event = .loaded path count := by
      split <;> simp
    cases p.load files path with
    | error e => exact ⟨[], rfl, by simp⟩
    | ok text =>
      simp only
      cases p.examine files path text with
      | error e => exact ⟨_, rfl, fun event he => .inl (hloaded event he)⟩
      | ok a =>
        refine ⟨_, rfl, fun event he => ?_⟩
        rcases List.mem_append.1 he with he | he
        · exact .inl (hloaded event he)
        · exact .inr ⟨_, _, List.mem_singleton.1 he⟩

/-! ## Walks -/

theorem walk_nil : walk p files entry g [] = ⟨g, [], .ok ()⟩ := by rw [walk]

theorem walk_cons (rest : List Path) : walk p files entry g (path :: rest) =
    match (visit p files entry g path).result with
    | .error e => ⟨g, .visited path :: (visit p files entry g path).events, .error e⟩
    | .ok (g', next) =>
      { walk p files entry g' (next ++ rest) with
        events := .visited path :: (visit p files entry g path).events ++
          (walk p files entry g' (next ++ rest)).events } := by
  rw [walk]
  split
  · next h => rw [h]
  · next h => rw [h]

theorem walk_error (rest : List Path) {e : Error} (h : (visit p files entry g path).result = .error e) :
    (walk p files entry g (path :: rest)).graph = g ∧
      (walk p files entry g (path :: rest)).result = .error e := by
  rw [walk_cons, h]
  exact ⟨rfl, rfl⟩

theorem walk_ok (rest : List Path) {next : List Path} (h : (visit p files entry g path).result = .ok (g', next)) :
    (walk p files entry g (path :: rest)).graph = (walk p files entry g' (next ++ rest)).graph ∧
      (walk p files entry g (path :: rest)).result = (walk p files entry g' (next ++ rest)).result := by
  rw [walk_cons, h]
  exact ⟨rfl, rfl⟩

theorem walk_of_visit (h : (visit p files entry g path).result = .ok (g', [])) :
    walk p files entry g [path] = ⟨g', .visited path :: (visit p files entry g path).events, .ok ()⟩ := by
  rw [walk_cons, h]
  simp [walk_nil]

theorem walk_keeps (Inv : Graph → List Path → Prop)
    (step : ∀ g path rest g' next, Inv g (path :: rest) →
      (visit p files entry g path).result = .ok (g', next) → Inv g' (next ++ rest))
    {pending : List Path} (h : Inv g pending) :
    ((walk p files entry g pending).result = .ok () ∧ Inv (walk p files entry g pending).graph []) ∨
    ∃ path rest e, (walk p files entry g pending).result = .error e ∧
      Inv (walk p files entry g pending).graph (path :: rest) ∧
      (visit p files entry (walk p files entry g pending).graph path).result = .error e := by
  induction g, pending using walk.induct p files entry with
  | case1 g =>
    rw [walk_nil]
    exact .inl ⟨rfl, h⟩
  | case2 g path rest _ e hvisit =>
    obtain ⟨hgraph, hresult⟩ := walk_error rest hvisit
    rw [hgraph, hresult]
    exact .inr ⟨path, rest, e, rfl, h, hvisit⟩
  | case3 g path rest _ g' next hvisit ih =>
    obtain ⟨hgraph, hresult⟩ := walk_ok rest hvisit
    rw [hgraph, hresult]
    exact ih (step g path rest g' next h hvisit)

end Bundler.Graph
