import Bundler.Proofs.Graph.Reach

/-!
# The walk as a recursion

A walk keeps a list of the files that are still to be looked at. It does what a recursion does that
looks at a file and then calls itself on each file that this one leads to. So modules are added in
the order in which a search that goes deep first comes to them.
-/

namespace Bundler.Graph

/-! ## Calls -/

/-- What became of a file that the recursion was called on. -/
inductive Outcome where
  /-- Its module was there and had the owner. -/
  | owned
  /-- Its module was there and got the owner. -/
  | joined
  /-- Its module was added. -/
  | added
  /-- Nothing could be found in it. -/
  | failed (e : Error)
deriving DecidableEq, Repr

/-- A call on a file, with the calls that it made. -/
inductive Call where
  | node (path : Path) (outcome : Outcome) (inner : List Call)

mutual

/-- A call before the calls that it made. -/
def Call.preorder : Call → List (Path × Outcome)
  | .node path outcome inner => (path, outcome) :: preorder inner

def preorder : List Call → List (Path × Outcome)
  | [] => []
  | call :: rest => call.preorder ++ preorder rest

end

theorem preorder_append (a b : List Call) : preorder (a ++ b) = preorder a ++ preorder b := by
  induction a with
  | nil => rfl
  | cons call rest ih => rw [List.cons_append, preorder, preorder, ih, List.append_assoc]

theorem preorder_node (path : Path) (outcome : Outcome) (inner : List Call) :
    preorder [.node path outcome inner] = (path, outcome) :: preorder inner := by
  simp [preorder, Call.preorder]

theorem preorder_leaf (path : Path) (outcome : Outcome) : preorder [.node path outcome []] = [(path, outcome)] :=
  preorder_node path outcome []

/-! ## The recursion -/

/-- In `g'` no more is left to do for an entry than in `g`. -/
def NoMore (entry : String) (g' g : Graph) : Prop :=
  absent g' < absent g ∨ absent g' = absent g ∧ unowned g' entry ≤ unowned g entry

namespace NoMore

variable {entry : String} {g g' g'' : Graph} {path : Path}

theorem refl (g : Graph) : NoMore entry g g := .inr ⟨rfl, Nat.le_refl _⟩

theorem trans (h : NoMore entry g'' g') (h' : NoMore entry g' g) : NoMore entry g'' g := by
  unfold NoMore at *
  omega

theorem addOwner {m : Module} (hm : g.find? path = some m) (hown : ¬ m.ownedBy entry) :
    NoMore entry (g.addOwner path entry) g :=
  .inr ⟨absent_addOwner g path entry, Nat.le_of_lt (unowned_addOwner_lt hm hown)⟩

end NoMore

theorem absent_add_moduleOf_lt {p : Project} {files : Files} {entry : String} {g : Graph} {path : Path}
    {a : Analysis} (hm : g.find? path = none) (ha : p.analyse files path = .ok a) :
    absent (g.add (p.moduleOf path entry a)) < absent g := by
  obtain ⟨text, hload, -⟩ := bind_eq_ok.1 ha
  refine absent_add_lt ?_ ?_
  · rwa [Project.moduleOf_path]
  · rw [Project.moduleOf_path]
    exact Project.length_le_of_load hload

/-- What the recursion leads to: the graph, the calls that were made, and whether all of them ended
well. -/
structure Descent (entry : String) (before : Graph) where
  graph : Graph
  calls : List Call
  result : Except Error Unit
  noMore : NoMore entry graph before

mutual

/-- Looks at a file for an entry, and then calls itself on the files that it leads to, in their
order: those that it asks for where it is new, those of them that are known where its module gets an
owner. The first file that cannot be built ends all calls; what was added before stays. -/
def descend (p : Project) (files : Files) (entry : String) (g : Graph) (path : Path) : Descent entry g :=
  match hm : g.find? path with
  | some m =>
    if hown : m.ownedBy entry then ⟨g, [.node path .owned []], .ok (), .refl g⟩
    else
      let inner := descendAll p files entry (g.addOwner path entry) (m.dependencies.filterMap g.pathOf?)
      ⟨inner.graph, [.node path .joined inner.calls], inner.result, inner.noMore.trans (.addOwner hm hown)⟩
  | none =>
    match ha : p.analyse files path with
    | .error e => ⟨g, [.node path (.failed e) []], .error e, .refl g⟩
    | .ok a =>
      let inner := descendAll p files entry (g.add (p.moduleOf path entry a)) (a.dependencies.map (·.path))
      ⟨inner.graph, [.node path .added inner.calls], inner.result,
        inner.noMore.trans (.inl (absent_add_moduleOf_lt hm ha))⟩
termination_by (absent g, unowned g entry, 0)
decreasing_by
  · rw [absent_addOwner]
    exact .right _ (.left _ _ (unowned_addOwner_lt hm hown))
  · exact .left _ _ (absent_add_moduleOf_lt hm ha)

/-- The calls on the files of a list, one after the other. -/
def descendAll (p : Project) (files : Files) (entry : String) (g : Graph) : List Path → Descent entry g
  | [] => ⟨g, [], .ok (), .refl g⟩
  | path :: rest =>
    let first := descend p files entry g path
    match first.result with
    | .error _ => first
    | .ok () =>
      let others := descendAll p files entry first.graph rest
      ⟨others.graph, first.calls ++ others.calls, others.result, others.noMore.trans first.noMore⟩
termination_by paths => (absent g, unowned g entry, paths.length + 1)
decreasing_by
  · exact .right _ (.right _ (by simp))
  · rcases first.noMore with h | ⟨h, h'⟩
    · exact .left _ _ h
    · rw [h]
      rcases Nat.lt_or_eq_of_le h' with h' | h'
      · exact .right _ (.left _ _ h')
      · rw [h']
        exact .right _ (.right _ (by simp))

end

variable {p : Project} {files : Files} {entry : String} {g : Graph} {path : Path}

theorem descend_of_owned {m : Module} (hm : g.find? path = some m) (hown : m.ownedBy entry) :
    descend p files entry g path = ⟨g, [.node path .owned []], .ok (), .refl g⟩ := by
  rw [descend]
  split
  · next m' hm' =>
    obtain rfl : m = m' := by simpa [hm] using hm'
    rw [dif_pos hown]
  · next hm' => simp [hm] at hm'

theorem descend_of_joined {m : Module} (hm : g.find? path = some m) (hown : ¬ m.ownedBy entry) :
    let inner := descendAll p files entry (g.addOwner path entry) (m.dependencies.filterMap g.pathOf?)
    descend p files entry g path = ⟨inner.graph, [.node path .joined inner.calls], inner.result,
      inner.noMore.trans (.addOwner hm hown)⟩ := by
  rw [descend]
  split
  · next m' hm' =>
    obtain rfl : m = m' := by simpa [hm] using hm'
    rw [dif_neg hown]
  · next hm' => simp [hm] at hm'

theorem descend_of_failed {e : Error} (hm : g.find? path = none) (ha : p.analyse files path = .error e) :
    descend p files entry g path = ⟨g, [.node path (.failed e) []], .error e, .refl g⟩ := by
  rw [descend]
  split
  · next hm' => simp [hm] at hm'
  · split
    · next e' ha' =>
      obtain rfl : e = e' := by simpa [ha] using ha'
      rfl
    · next ha' => simp [ha] at ha'

theorem descend_of_added {a : Analysis} (hm : g.find? path = none) (ha : p.analyse files path = .ok a) :
    let inner := descendAll p files entry (g.add (p.moduleOf path entry a)) (a.dependencies.map (·.path))
    descend p files entry g path = ⟨inner.graph, [.node path .added inner.calls], inner.result,
      inner.noMore.trans (.inl (absent_add_moduleOf_lt hm ha))⟩ := by
  rw [descend]
  split
  · next hm' => simp [hm] at hm'
  · split
    · next ha' => simp [ha] at ha'
    · next a' ha' =>
      obtain rfl : a = a' := by simpa [ha] using ha'
      rfl

theorem descendAll_of_error (rest : List Path) {e : Error} (h : (descend p files entry g path).result = .error e) :
    descendAll p files entry g (path :: rest) = descend p files entry g path := by
  rw [descendAll]
  simp only
  split
  · rfl
  · next h' => simp [h] at h'

theorem descendAll_of_ok (rest : List Path) (h : (descend p files entry g path).result = .ok ()) :
    let first := descend p files entry g path
    let others := descendAll p files entry first.graph rest
    descendAll p files entry g (path :: rest) =
      ⟨others.graph, first.calls ++ others.calls, others.result, others.noMore.trans first.noMore⟩ := by
  rw [descendAll]
  simp only
  split
  · next h' => simp [h] at h'
  · rfl

/-! ## Walks in a row -/

theorem visit_result : (visit p files entry g path).result =
    match g.find? path with
    | some m =>
      if m.ownedBy entry then .ok (g, []) else .ok (g.addOwner path entry, m.dependencies.filterMap g.pathOf?)
    | none => (p.analyse files path).map fun a =>
      (g.add (p.moduleOf path entry a), a.dependencies.map (·.path)) := by
  unfold visit
  cases g.find? path with
  | some m => simp only [apply_ite Visit.result]
  | none =>
    simp only [Project.analyse]
    cases p.load files path with
    | error e => rfl
    | ok text =>
      simp only [bind, Except.bind]
      cases p.examine files path text <;> rfl

/-- The files that are looked at. -/
def visits (events : List Event) : List Path :=
  events.filterMap fun
    | .visited path => some path
    | _ => none

theorem visits_append (a b : List Event) : visits (a ++ b) = visits a ++ visits b := List.filterMap_append

theorem visits_cons_visited (path : Path) (events : List Event) :
    visits (.visited path :: events) = path :: visits events := List.filterMap_cons_some rfl

theorem visits_visit : visits (visit p files entry g path).events = [] := by
  apply List.filterMap_eq_nil_iff.2
  intro event he
  rcases visit_events p files entry g path with ⟨m, -, hevents⟩ | ⟨-, more, hevents, hmore⟩
  · rw [hevents event he]
  · rw [hevents] at he
    rcases List.mem_cons.1 he with rfl | he
    · rfl
    · rcases hmore event he with ⟨count, rfl⟩ | ⟨id, count, rfl⟩ <;> rfl

/-- Another walk after one that came to its end. -/
def Walk.andThen (w : Walk) (next : Graph → Walk) : Walk :=
  match w.result with
  | .error _ => w
  | .ok () => { next w.graph with events := w.events ++ (next w.graph).events }

/-- The files at the end of the list wait until all that comes of those before them is done. -/
theorem walk_append (a b : List Path) :
    walk p files entry g (a ++ b) = (walk p files entry g a).andThen (walk p files entry · b) := by
  induction g, a using walk.induct p files entry with
  | case1 g => simp [walk_nil, Walk.andThen]
  | case2 g path rest _ e hvisit =>
    rw [List.cons_append, walk_cons, walk_cons, hvisit]
    rfl
  | case3 g path rest _ g' next hvisit ih =>
    rw [List.cons_append, walk_cons, walk_cons, hvisit]
    simp only [← List.append_assoc, ih]
    cases hresult : (walk p files entry g' (next ++ rest)).result with
    | error e => simp [Walk.andThen, hresult]
    | ok _ => simp [Walk.andThen, hresult]

/-! ## The walk and the recursion -/

/-- A walk does what the recursion does, and looks at the files in the order of its calls. -/
structure Agrees {before : Graph} (w : Walk) (d : Descent entry before) : Prop where
  graph : w.graph = d.graph
  result : w.result = d.result
  visits : visits w.events = (preorder d.calls).map (·.1)

/-- What is left of a walk after its first look is the walk through what that look leads to. -/
theorem Agrees.under {g' : Graph} {next : List Path}
    (hvisit : (visit p files entry g path).result = .ok (g', next)) {inner : Descent entry g'} {d : Descent entry g}
    {outcome : Outcome} (h : Agrees (walk p files entry g' next) inner) (hgraph : d.graph = inner.graph)
    (hresult : d.result = inner.result) (hcalls : d.calls = [.node path outcome inner.calls]) :
    Agrees (walk p files entry g [path]) d := by
  rw [walk_cons, hvisit]
  simp only [List.append_nil]
  refine ⟨h.graph.trans hgraph.symm, h.result.trans hresult.symm, ?_⟩
  rw [List.cons_append, visits_cons_visited, visits_append, visits_visit, h.visits, hcalls, preorder_node]
  rfl

theorem agrees_descend (p : Project) (files : Files) (entry : String) :
    (∀ g path, Agrees (walk p files entry g [path]) (descend p files entry g path)) ∧
      ∀ g paths, Agrees (walk p files entry g paths) (descendAll p files entry g paths) := by
  apply descend.mutual_induct
  case case1 =>
    intro g path m hm hown
    have hvisit : (visit p files entry g path).result = .ok (g, []) := by
      rw [visit_result, hm]
      exact if_pos hown
    have hnil : Agrees (walk p files entry g []) (⟨g, [], .ok (), .refl g⟩ : Descent entry g) := by
      rw [walk_nil]
      exact ⟨rfl, rfl, rfl⟩
    rw [descend_of_owned hm hown]
    exact hnil.under hvisit rfl rfl rfl
  case case2 =>
    intro g path m hm hown ih
    have hvisit : (visit p files entry g path).result =
        .ok (g.addOwner path entry, m.dependencies.filterMap g.pathOf?) := by
      rw [visit_result, hm]
      exact if_neg hown
    rw [descend_of_joined hm hown]
    exact ih.under hvisit rfl rfl rfl
  case case3 =>
    intro g path hm e ha
    have hvisit : (visit p files entry g path).result = .error e := by
      rw [visit_result, hm, ha]
      rfl
    rw [descend_of_failed hm ha, walk_cons, hvisit]
    exact ⟨rfl, rfl, by rw [visits_cons_visited, visits_visit, preorder_node]; rfl⟩
  case case4 =>
    intro g path hm a ha ih
    have hvisit : (visit p files entry g path).result =
        .ok (g.add (p.moduleOf path entry a), a.dependencies.map (·.path)) := by
      rw [visit_result, hm, ha]
      rfl
    rw [descend_of_added hm ha]
    exact ih.under hvisit rfl rfl rfl
  case case5 =>
    intro g
    rw [walk_nil, descendAll]
    exact ⟨rfl, rfl, rfl⟩
  case case6 =>
    intro g path rest _ e hresult ih
    rw [descendAll_of_error rest hresult]
    change Agrees (walk p files entry g ([path] ++ rest)) _
    rw [walk_append, Walk.andThen, ih.result.trans hresult]
    exact ih
  case case7 =>
    intro g path rest _ hresult ih ihrest _
    rw [descendAll_of_ok rest hresult]
    change Agrees (walk p files entry g ([path] ++ rest)) _
    rw [walk_append, Walk.andThen, ih.result.trans hresult]
    simp only [ih.graph]
    refine ⟨ihrest.graph, ihrest.result, ?_⟩
    rw [visits_append, ih.visits, ihrest.visits, preorder_append, List.map_append]

/-! ## The order of the calls -/

/-- The files that were added, in the order of the calls. -/
def addedBy (steps : List (Path × Outcome)) : List Path :=
  (steps.filter fun step => step.2 = .added).map (·.1)

theorem addedBy_append (a b : List (Path × Outcome)) : addedBy (a ++ b) = addedBy a ++ addedBy b := by
  simp [addedBy]

/-- The calls end well where none of them failed. Otherwise the last of them is the only one that
failed, and the error is that of its file. -/
def EndsWith (p : Project) (files : Files) (steps : List (Path × Outcome)) : Except Error Unit → Prop
  | .ok () => ∀ step ∈ steps, ∀ e, step.2 ≠ .failed e
  | .error e => ∃ before path, steps = before ++ [(path, .failed e)] ∧ p.analyse files path = .error e ∧
      ∀ step ∈ before, ∀ e, step.2 ≠ .failed e

theorem EndsWith.append {a b : List (Path × Outcome)} {result : Except Error Unit}
    (ha : EndsWith p files a (.ok ())) (hb : EndsWith p files b result) : EndsWith p files (a ++ b) result := by
  have hok : ∀ c, EndsWith p files c (.ok ()) → EndsWith p files (a ++ c) (.ok ()) := by
    intro c hc step hstep
    rcases List.mem_append.1 hstep with hstep | hstep
    · exact ha step hstep
    · exact hc step hstep
  cases result with
  | ok _ => exact hok b hb
  | error e =>
    obtain ⟨before, path, rfl, hpath, hbefore⟩ := hb
    exact ⟨a ++ before, path, by simp, hpath, hok before hbefore⟩

/-- What the calls tell of a descent: which files were added, and how it ended. -/
structure Told (p : Project) (files : Files) (d : Descent entry g) : Prop where
  keys : d.graph.keys = g.keys ++ addedBy (preorder d.calls)
  ends : EndsWith p files (preorder d.calls) d.result

theorem told_descend (p : Project) (files : Files) (entry : String) :
    (∀ g path, Told p files (descend p files entry g path)) ∧
      ∀ g paths, Told p files (descendAll p files entry g paths) := by
  apply descend.mutual_induct
  case case1 =>
    intro g path m hm hown
    rw [descend_of_owned hm hown]
    constructor
    · simp [preorder_leaf, addedBy]
    · simp [preorder_leaf, EndsWith]
  case case2 =>
    intro g path m hm hown ih
    rw [descend_of_joined hm hown]
    have hstep : EndsWith p files [(path, .joined)] (.ok ()) := by simp [EndsWith]
    refine ⟨?_, by simpa [preorder_node] using hstep.append ih.ends⟩
    simp only [ih.keys, keys_addOwner, preorder_node, addedBy]
    simp
  case case3 =>
    intro g path hm e ha
    rw [descend_of_failed hm ha]
    exact ⟨by simp [preorder_leaf, addedBy], [], path, preorder_leaf .., ha, by simp⟩
  case case4 =>
    intro g path hm a ha ih
    rw [descend_of_added hm ha]
    have hstep : EndsWith p files [(path, .added)] (.ok ()) := by simp [EndsWith]
    refine ⟨?_, by simpa [preorder_node] using hstep.append ih.ends⟩
    simp only [ih.keys, keys_add, Project.moduleOf_path, preorder_node, addedBy]
    simp
  case case5 =>
    intro g
    rw [descendAll]
    exact ⟨by simp [preorder, addedBy], by simp [preorder, EndsWith]⟩
  case case6 =>
    intro g path rest _ e hresult ih
    rw [descendAll_of_error rest hresult]
    exact ih
  case case7 =>
    intro g path rest _ hresult ih ihrest _
    rw [descendAll_of_ok rest hresult]
    constructor
    · rw [ihrest.keys, ih.keys, preorder_append, addedBy_append, List.append_assoc]
    · rw [preorder_append]
      exact (hresult ▸ ih.ends).append ihrest.ends

/-! ## Builds -/

theorem isSome_find?_of_visit {g' : Graph} {next : List Path} {q : Path}
    (h : (visit p files entry g path).result = .ok (g', next)) (hq : (g.find? q).isSome ∨ q = path) :
    (g'.find? q).isSome := by
  rcases visit_ok h with ⟨m, hm, -, rfl, -⟩ | ⟨m, hm, -, rfl, -⟩ | ⟨a, -, -, rfl, -⟩
  · rcases hq with hq | rfl
    · exact hq
    · simp [hm]
  · rw [find?_addOwner, Option.isSome_map]
    rcases hq with hq | rfl
    · exact hq
    · simp [hm]
  · rw [find?_add, Option.isSome_or]
    rcases hq with hq | rfl
    · simp [hq]
    · simp [Path.same_self]

theorem isSome_find?_walk {pending : List Path} (h : (walk p files entry g pending).result = .ok ()) {q : Path}
    (hq : q ∈ pending) : ((walk p files entry g pending).graph.find? q).isSome := by
  have step : ∀ g path rest g' next, (g.find? q).isSome ∨ q ∈ path :: rest →
      (visit p files entry g path).result = .ok (g', next) → (g'.find? q).isSome ∨ q ∈ next ++ rest := by
    intro g path rest g' next hwas hvisit
    rcases hwas with hsome | hmem
    · exact .inl (isSome_find?_of_visit hvisit (.inl hsome))
    · rcases List.mem_cons.1 hmem with rfl | hmem
      · exact .inl (isSome_find?_of_visit hvisit (.inr rfl))
      · exact .inr (by simp [hmem])
  rcases walk_keeps (fun g pending => (g.find? q).isSome ∨ q ∈ pending) step (.inr hq) with
    ⟨-, hend⟩ | ⟨_, _, e, herr, -⟩
  · simpa using hend
  · rw [h] at herr
    cases herr

/-- A build gives the graph and the result of the recursion, and looks at the files in the order of its calls. -/
theorem build_eq_descend (p : Project) (files : Files) (g : Graph) (entry : String) (path : Path) :
    let built := build p files g entry path
    let d := descend p files entry g path.normal
    built.graph = d.graph ∧
    built.result.map (fun _ => ()) = d.result ∧
    (∀ m, built.result = .ok m → d.graph.find? path.normal = some m) ∧
    visits built.events = (preorder d.calls).map (·.1) ∧
    built.graph.keys = g.keys ++ addedBy (preorder d.calls) ∧
    EndsWith p files (preorder d.calls) d.result := by
  intro built d
  have hagrees : Agrees (walk p files entry g [path.normal]) d := (agrees_descend p files entry).1 g path.normal
  have htold : Told p files d := (told_descend p files entry).1 g path.normal
  have hgraph : built.graph = d.graph := hagrees.graph
  have hresult : built.result = d.result >>= fun _ =>
      match d.graph.find? path.normal with
      | some m => .ok m
      | none => .error (.unknownModule (Path.idFrom p.root path.normal)) := by
    rw [← hagrees.result, ← hagrees.graph]
    exact build_result entry path
  refine ⟨hgraph, ?_, ?_, hagrees.visits, hgraph ▸ htold.keys, htold.ends⟩
  · rw [hresult]
    cases hend : d.result with
    | error e => rfl
    | ok _ =>
      have hsome := isSome_find?_walk (hagrees.result.trans hend) (List.mem_singleton_self path.normal)
      rw [hagrees.graph] at hsome
      obtain ⟨m, hm⟩ := Option.isSome_iff_exists.1 hsome
      simp only [hm]
      rfl
  · exact fun m hm => hgraph ▸ find?_of_build_ok hm

end Bundler.Graph
