import Bundler.Proofs.Graph.Reach
import Mathlib.Data.List.Induction
import Mathlib.Data.List.Pairwise

/-!
# Histories of a graph

A graph is asked for modules again and again, and the files may be others each time. Some requests
fail. Whatever happened, every step was a look at a file; what every look keeps holds of the graph at
any time.
-/

namespace Bundler

theorem Path.same_symm {a b : Path} (h : a.same b) : b.same a := by
  simp only [same, beq_iff_eq] at *
  exact h.symm

theorem Path.same_trans {a b c : Path} (h : a.same b) (h' : b.same c) : a.same c := by
  simp only [same, beq_iff_eq] at *
  exact h.trans h'

namespace Project

variable {p : Project} {files : Files} {m n : Module}

theorem Built.of_bare (hn : p.Built files n) (h : m.bare = n.bare) : p.Built files m := by
  obtain ⟨a, ha, hbare⟩ := hn
  rw [← Module.path_eq_of_bare h] at ha hbare
  exact ⟨a, ha, h.trans hbare⟩

theorem Built.exists_extract (hm : p.Built files m) :
    ∃ found, extract files p.resolver p.root m.path m.transformed = .ok ⟨m.emitted, found⟩ ∧
      m.dependencies = (found.map (·.id)).eraseDups := by
  obtain ⟨a, ha, hbare⟩ := hm
  simp only [Module.bare, moduleOf, Module.mk.injEq] at hbare
  obtain ⟨-, -, htransformed, hemitted, hdependencies, -⟩ := hbare
  exact ⟨a.dependencies, htransformed ▸ hemitted ▸ (analyse_ok ha).2, hdependencies⟩

end Project

namespace Graph

/-! ## Requests -/

/-- What is asked for: the module of one file, or those of a list of entries. -/
inductive Request where
  | one (entry : String) (path : Path)
  | all (entries : List (String × Path))

/-- The names for which modules are asked for. -/
def Request.names : Request → List String
  | one entry _ => [entry]
  | all entries => entries.map (·.1)

/-- The paths of the modules that are asked for. -/
def Request.paths : Request → List Path
  | one _ path => [path]
  | all entries => entries.map (·.2)

/-- A request, with the files as they are when it comes. -/
structure Turn where
  files : Files
  request : Request

/-- The graph after a request. -/
def Turn.graph (p : Project) (g : Graph) (turn : Turn) : Graph :=
  match turn.request with
  | .one entry path => (build p turn.files g entry path).graph
  | .all entries => (buildEntries p turn.files g entries).graph

/-- The request is met. -/
def Turn.EndsWell (p : Project) (g : Graph) (turn : Turn) : Prop :=
  match turn.request with
  | .one entry path => ∃ m, (build p turn.files g entry path).result = .ok m
  | .all entries => ∃ ids, (buildEntries p turn.files g entries).result = .ok ids

/-- The graph after requests that came one after the other, met or not. -/
def after (p : Project) (turns : List Turn) : Graph := turns.foldl (Turn.graph p) {}

theorem after_concat (p : Project) (turns : List Turn) (turn : Turn) :
    after p (turns ++ [turn]) = turn.graph p (after p turns) := by
  rw [after, List.foldl_append]
  rfl

/-! ## Looks in a row -/

/-- `h` comes of `g` by looks at files, each for one of the names. -/
inductive Looks (p : Project) (files : Files) (names : List String) (g : Graph) : Graph → Prop
  | refl : Looks p files names g g
  | look {h h' : Graph} {entry : String} {path : Path} {next : List Path} (hlooks : Looks p files names g h)
      (hentry : entry ∈ names) (hvisit : (visit p files entry h path).result = .ok (h', next)) :
      Looks p files names g h'

variable {p : Project} {files : Files} {names : List String} {g h k : Graph} {entry : String} {path q : Path}

theorem Looks.trans (hgh : Looks p files names g h) (hhk : Looks p files names h k) : Looks p files names g k := by
  induction hhk with
  | refl => exact hgh
  | look _ hentry hvisit ih => exact ih.look hentry hvisit

theorem looks_walk (hentry : entry ∈ names) (g : Graph) (pending : List Path) :
    Looks p files names g (walk p files entry g pending).graph := by
  rcases walk_keeps (fun h _ => Looks p files names g h) (fun _ _ _ _ _ hlooks hvisit => hlooks.look hentry hvisit)
    Looks.refl with ⟨-, hend⟩ | ⟨_, _, _, -, hstop, -⟩
  · exact hend
  · exact hstop

theorem looks_buildEntries {entries : List (String × Path)} (hnames : ∀ e ∈ entries, e.1 ∈ names) (g : Graph) :
    Looks p files names g (buildEntries p files g entries).graph := by
  induction entries generalizing g with
  | nil => exact .refl
  | cons first rest ih =>
    obtain ⟨name, path⟩ := first
    rw [List.forall_mem_cons] at hnames
    have hfirst : Looks p files names g (build p files g name path).graph := looks_walk hnames.1 g [path.normal]
    rw [buildEntries]
    cases (build p files g name path).result with
    | error e => exact hfirst
    | ok m => exact hfirst.trans (ih hnames.2 _)

theorem looks_turn (p : Project) (g : Graph) (turn : Turn) :
    Looks p turn.files turn.request.names g (turn.graph p g) := by
  unfold Turn.graph Request.names
  cases turn.request with
  | one entry path => exact looks_walk (by simp) g [path.normal]
  | all entries => exact looks_buildEntries (fun e he => List.mem_map.2 ⟨e, he, rfl⟩) g

/-- What every look keeps holds after every history. -/
theorem after_keeps {Inv : Graph → Prop} (hempty : Inv {})
    (step : ∀ files entry path g g' next, Inv g → (visit p files entry g path).result = .ok (g', next) → Inv g')
    (turns : List Turn) : Inv (after p turns) := by
  induction turns using List.reverseRecOn with
  | nil => exact hempty
  | append_singleton turns turn ih =>
    have hlooks := looks_turn p (after p turns) turn
    rw [after_concat]
    generalize turn.graph p (after p turns) = g at hlooks
    induction hlooks with
    | refl => exact ih
    | look _ _ hvisit ih => exact step _ _ _ _ _ _ ih hvisit

/-! ## Tables that agree with each other -/

/-- The modules and the paths of ids agree: there is one module for a place, with the id of its path,
some owner and no owner twice; an id has a path exactly where a module has it. -/
structure Consistent (p : Project) (g : Graph) : Prop where
  unique : g.keys.Pairwise fun a b => ¬ a.same b
  id_eq : ∀ m ∈ g.modules, m.id = Path.idFrom p.root m.path
  owned : ∀ m ∈ g.modules, m.owners ≠ [] ∧ m.owners.Nodup
  known : ∀ m ∈ g.modules, (g.pathOf? m.id).isSome
  path : ∀ id q, g.pathOf? id = some q → ∃ m ∈ g.modules, m.path = q ∧ m.id = id

theorem consistent_empty : Consistent p {} := ⟨by simp [keys], by simp, by simp, by simp, by simp [pathOf?]⟩

theorem Consistent.eq_of_same (hg : Consistent p g) {m n : Module} (hm : m ∈ g.modules) (hn : n ∈ g.modules)
    (h : m.path.same n.path) : m = n := by
  have hpairs : g.modules.Pairwise fun a b => ¬ a.path.same b.path := List.pairwise_map.1 hg.unique
  have hsymm : Std.Symm fun a b : Module => ¬ a.path.same b.path := ⟨fun _ _ hab hba => hab (Path.same_symm hba)⟩
  by_contra hne
  exact hpairs.forall hm hn hne h

theorem Consistent.map_id (hg : Consistent p g) : g.modules.map (·.id) = g.keys.map (Path.idFrom p.root) := by
  rw [keys, List.map_map]
  exact List.map_congr_left hg.id_eq

theorem Consistent.find?_eq_some (hg : Consistent p g) {m : Module} :
    g.find? q = some m ↔ m ∈ g.modules ∧ m.path.same q := by
  constructor
  · exact fun h => ⟨List.mem_of_find?_eq_some h, path_same_of_find? h⟩
  · rintro ⟨hm, hsame⟩
    cases hfound : g.find? q with
    | none => exact absurd hsame (List.find?_eq_none.1 hfound m hm)
    | some n =>
      rw [hg.eq_of_same (List.mem_of_find?_eq_some hfound) hm
        (Path.same_trans (path_same_of_find? hfound) (Path.same_symm hsame))]

theorem find?_eq_none_iff : g.find? q = none ↔ ∀ m ∈ g.modules, ¬ m.path.same q := by
  simp [find?, List.find?_eq_none]

theorem Consistent.addOwner (hg : Consistent p g) {m : Module} (hm : g.find? path = some m)
    (hown : ¬ m.ownedBy entry) : Consistent p (g.addOwner path entry) := by
  refine ⟨by rw [keys_addOwner]; exact hg.unique, ?_, ?_, ?_, ?_⟩
  · intro n hn
    obtain ⟨k, hk, rfl⟩ := List.mem_map.1 hn
    split
    · exact hg.id_eq k hk
    · exact hg.id_eq k hk
  · intro n hn
    obtain ⟨k, hk, rfl⟩ := List.mem_map.1 hn
    split
    · next hsame =>
      obtain rfl : k = m := Option.some.inj ((hg.find?_eq_some.2 ⟨hk, hsame⟩).symm.trans hm)
      refine ⟨by simp [Module.addOwner], ?_⟩
      have hnew : entry ∉ k.owners := by simpa [Module.ownedBy] using hown
      simpa [Module.addOwner] using List.Nodup.concat hnew (hg.owned k hk).2
    · exact hg.owned k hk
  · intro n hn
    obtain ⟨k, hk, rfl⟩ := List.mem_map.1 hn
    rw [pathOf?_addOwner]
    split
    · exact hg.known k hk
    · exact hg.known k hk
  · intro id q hq
    obtain ⟨k, hk, hkq, hkid⟩ := hg.path id q hq
    refine ⟨_, List.mem_map.2 ⟨k, hk, rfl⟩, ?_⟩
    split
    · exact ⟨hkq, hkid⟩
    · exact ⟨hkq, hkid⟩

theorem Consistent.add (hg : Consistent p g) (hm : g.find? path = none) (entry : String) (a : Analysis) :
    Consistent p (g.add (p.moduleOf path entry a)) := by
  have hmem : ∀ {n}, n ∈ (g.add (p.moduleOf path entry a)).modules → n ∈ g.modules ∨ n = p.moduleOf path entry a :=
    fun hn => (List.mem_append.1 hn).imp id List.mem_singleton.1
  have hpath : ∀ id, (g.add (p.moduleOf path entry a)).pathOf? id =
      if id = Path.idFrom p.root path then some path else g.pathOf? id := fun id => by
    rw [pathOf?_add, Project.moduleOf_id, Project.moduleOf_path]
  refine ⟨?_, ?_, ?_, ?_, ?_⟩
  · rw [keys_add, Project.moduleOf_path]
    refine List.pairwise_append.2 ⟨hg.unique, by simp, ?_⟩
    intro k hk b hb hsame
    obtain ⟨n, hn, rfl⟩ := mem_keys.1 hk
    rw [List.mem_singleton.1 hb] at hsame
    exact find?_eq_none_iff.1 hm n hn hsame
  · intro n hn
    rcases hmem hn with hn | rfl
    · exact hg.id_eq n hn
    · rw [Project.moduleOf_id, Project.moduleOf_path]
  · intro n hn
    rcases hmem hn with hn | rfl
    · exact hg.owned n hn
    · simp [Project.moduleOf]
  · intro n hn
    rw [hpath]
    split
    · rfl
    · next hid =>
      rcases hmem hn with hn | rfl
      · exact hg.known n hn
      · exact absurd (Project.moduleOf_id ..) hid
  · intro id q hq
    rw [hpath] at hq
    split at hq
    · next hid =>
      refine ⟨p.moduleOf path entry a, by simp [Graph.add], ?_, ?_⟩
      · rw [Project.moduleOf_path]
        exact Option.some.inj hq
      · rw [Project.moduleOf_id, hid]
    · obtain ⟨n, hn, hnq, hnid⟩ := hg.path id q hq
      exact ⟨n, by simp [Graph.add, hn], hnq, hnid⟩

theorem Consistent.visit {g' : Graph} {next : List Path} (hg : Consistent p g)
    (h : (visit p files entry g path).result = .ok (g', next)) : Consistent p g' := by
  rcases visit_ok h with ⟨m, -, -, rfl, -⟩ | ⟨m, hm, hown, rfl, -⟩ | ⟨a, hm, -, rfl, -⟩
  · exact hg
  · exact hg.addOwner hm hown
  · exact hg.add hm entry a

theorem Consistent.looks (hg : Consistent p g) (h : Looks p files names g k) : Consistent p k := by
  induction h with
  | refl => exact hg
  | look _ _ hvisit ih => exact ih.visit hvisit

theorem consistent_after (p : Project) (turns : List Turn) : Consistent p (after p turns) :=
  after_keeps consistent_empty (fun _ _ _ _ _ _ hg hvisit => hg.visit hvisit) turns

theorem Consistent.mem_keys_of_known (hg : Consistent p g) {ids : List String} {q : Path}
    (hq : q ∈ ids.filterMap g.pathOf?) : q ∈ g.keys := by
  obtain ⟨id, -, hid⟩ := List.mem_filterMap.1 hq
  obtain ⟨m, hm, rfl, -⟩ := hg.path id q hid
  exact mem_keys.2 ⟨m, hm, rfl⟩

/-! ## What all paths have in common -/

/-- The tables agree, and all paths in them and all that are still to be looked at have a property. -/
structure Among (p : Project) (P : Path → Prop) (g : Graph) (pending : List Path) : Prop where
  consistent : Consistent p g
  keys : ∀ q ∈ g.keys, P q
  pending : ∀ q ∈ pending, P q

section
variable {P : Path → Prop} (hP : ∀ files a b, P a → p.Asks files a b → P b)
include hP

theorem Among.visit {rest : List Path} (ha : Among p P g (path :: rest)) {g' : Graph} {next : List Path}
    (hvisit : (visit p files entry g path).result = .ok (g', next)) : Among p P g' (next ++ rest) := by
  obtain ⟨hpath, hrest⟩ := List.forall_mem_cons.1 ha.pending
  have hc := ha.consistent.visit hvisit
  rcases visit_ok hvisit with ⟨m, -, -, rfl, rfl⟩ | ⟨m, -, -, rfl, rfl⟩ | ⟨a, -, hfound, rfl, rfl⟩
  · exact ⟨hc, ha.keys, hrest⟩
  · refine ⟨hc, by rw [keys_addOwner]; exact ha.keys, fun q hq => ?_⟩
    rcases List.mem_append.1 hq with hq | hq
    · exact ha.keys q (ha.consistent.mem_keys_of_known hq)
    · exact hrest q hq
  · refine ⟨hc, fun q hq => ?_, fun q hq => ?_⟩
    · rw [keys_add, Project.moduleOf_path] at hq
      rcases List.mem_append.1 hq with hq | hq
      · exact ha.keys q hq
      · rw [List.mem_singleton.1 hq]
        exact hpath
    · rcases List.mem_append.1 hq with hq | hq
      · obtain ⟨d, hd, rfl⟩ := List.mem_map.1 hq
        exact hP files path d.path hpath ⟨a, hfound, d, hd, rfl⟩
      · exact hrest q hq

theorem Among.build (ha : Among p P g []) (files : Files) (entry : String) (hpath : P path.normal) :
    Among p P (build p files g entry path).graph [] := by
  have hstart : Among p P g [path.normal] := ⟨ha.consistent, ha.keys, by simpa using hpath⟩
  rcases walk_keeps (Among p P) (fun _ _ _ _ _ ha hvisit => ha.visit hP hvisit) hstart with
    ⟨-, hend⟩ | ⟨_, _, _, -, hstop, -⟩
  · exact hend
  · exact ⟨hstop.consistent, hstop.keys, by simp⟩

theorem Among.buildEntries (ha : Among p P g []) (files : Files) {entries : List (String × Path)}
    (hentries : ∀ e ∈ entries, P e.2.normal) : Among p P (buildEntries p files g entries).graph [] := by
  induction entries generalizing g with
  | nil => exact ha
  | cons first rest ih =>
    obtain ⟨name, path⟩ := first
    rw [List.forall_mem_cons] at hentries
    have hfirst := ha.build hP files name hentries.1
    rw [Graph.buildEntries]
    cases (Graph.build p files g name path).result with
    | error e => exact hfirst
    | ok m => exact ih hfirst hentries.2

theorem among_after {turns : List Turn} (hturns : ∀ turn ∈ turns, ∀ q ∈ turn.request.paths, P q.normal) :
    Among p P (after p turns) [] := by
  induction turns using List.reverseRecOn with
  | nil => exact ⟨consistent_empty, by simp [after, keys], by simp⟩
  | append_singleton turns turn ih =>
    have ih := ih fun earlier hearlier => hturns earlier (by simp [hearlier])
    have hturn := hturns turn (by simp)
    rw [after_concat, Turn.graph]
    cases hrequest : turn.request with
    | one entry path =>
      rw [hrequest] at hturn
      exact ih.build hP turn.files entry (hturn path (by simp [Request.paths]))
    | all entries =>
      rw [hrequest] at hturn
      exact ih.buildEntries hP turn.files fun e he => hturn e.2 (List.mem_map.2 ⟨e, he, rfl⟩)

end

/-! ## Graphs that grow -/

/-- The same module, with more owners at most, all of them among the names. -/
def Grows (names : List String) (m m' : Module) : Prop :=
  m'.bare = m.bare ∧ ∃ more, m'.owners = m.owners ++ more ∧ ∀ o ∈ more, o ∈ names

theorem Grows.refl (m : Module) : Grows names m m := ⟨rfl, [], by simp, by simp⟩

theorem Grows.trans {a b c : Module} (hab : Grows names a b) (hbc : Grows names b c) : Grows names a c := by
  obtain ⟨hbare, more, hmore, hnames⟩ := hab
  obtain ⟨hbare', more', hmore', hnames'⟩ := hbc
  refine ⟨hbare'.trans hbare, more ++ more', by rw [hmore', hmore, List.append_assoc], fun o ho => ?_⟩
  exact (List.mem_append.1 ho).elim (hnames o) (hnames' o)

/-- Every module keeps its place and grows at most, and modules that come behind them have owners
among the names. -/
structure Extends (names : List String) (g g' : Graph) : Prop where
  grows : ∀ (i : Nat) m, g.modules[i]? = some m → ∃ m', g'.modules[i]? = some m' ∧ Grows names m m'
  fresh : ∀ (i : Nat) m', g.modules[i]? = none → g'.modules[i]? = some m' → ∀ o ∈ m'.owners, o ∈ names

theorem Extends.refl (g : Graph) : Extends names g g := by
  refine ⟨fun i m hm => ⟨m, hm, .refl m⟩, fun i m' hnone hm' => ?_⟩
  rw [hnone] at hm'
  cases hm'

theorem Extends.trans (hgh : Extends names g h) (hhk : Extends names h k) : Extends names g k := by
  constructor
  · intro i m hm
    obtain ⟨m', hm', hgrow⟩ := hgh.grows i m hm
    obtain ⟨m'', hm'', hgrow'⟩ := hhk.grows i m' hm'
    exact ⟨m'', hm'', hgrow.trans hgrow'⟩
  · intro i m'' hnone hm''
    cases hm' : h.modules[i]? with
    | none => exact hhk.fresh i m'' hm' hm''
    | some m' =>
      obtain ⟨n, hn, -, more, hmore, hnames⟩ := hhk.grows i m' hm'
      obtain rfl : n = m'' := Option.some.inj (hn.symm.trans hm'')
      intro o ho
      rw [hmore] at ho
      exact (List.mem_append.1 ho).elim (hgh.fresh i m' hnone hm' o) (hnames o)

theorem Extends.visit {g' : Graph} {next : List Path} (hentry : entry ∈ names)
    (h : (visit p files entry g path).result = .ok (g', next)) : Extends names g g' := by
  rcases visit_ok h with ⟨m, -, -, rfl, -⟩ | ⟨m, -, -, rfl, -⟩ | ⟨a, -, -, rfl, -⟩
  · exact .refl _
  · constructor
    · intro i m hm
      refine ⟨_, by rw [addOwner, List.getElem?_map, hm]; rfl, ?_⟩
      simp only
      split
      · exact ⟨rfl, [entry], rfl, by simpa using hentry⟩
      · exact .refl m
    · intro i m' hnone hm'
      simp [addOwner, hnone] at hm'
  · constructor
    · intro i m hm
      refine ⟨m, ?_, .refl m⟩
      rw [add, List.getElem?_append_left (List.getElem?_eq_some_iff.1 hm).1, hm]
    · intro i m' hnone hm'
      rw [add, List.getElem?_append_right (List.getElem?_eq_none_iff.1 hnone), List.getElem?_singleton] at hm'
      split at hm'
      · obtain rfl := Option.some.inj hm'
        simpa [Project.moduleOf] using hentry
      · cases hm'

theorem Looks.extends (h : Looks p files names g k) : Extends names g k := by
  induction h with
  | refl => exact .refl g
  | look _ hentry hvisit ih => exact ih.trans (.visit hentry hvisit)

theorem Extends.exists_bare (h : Extends names g k) {m : Module} (hm : m ∈ g.modules) :
    ∃ m' ∈ k.modules, Grows names m m' := by
  obtain ⟨i, hi⟩ := List.mem_iff_getElem?.1 hm
  obtain ⟨m', hm', hgrow⟩ := h.grows i m hi
  exact ⟨m', List.mem_of_getElem? hm', hgrow⟩

theorem Extends.find?_eq_none (h : Extends names g k) (hq : k.find? q = none) : g.find? q = none := by
  rw [find?_eq_none_iff] at *
  intro m hm
  obtain ⟨m', hm', hgrow⟩ := h.exists_bare hm
  rw [← Module.path_eq_of_bare hgrow.1]
  exact hq m' hm'

/-! ## When a module was built -/

theorem Looks.origin (hlooks : Looks p files names g k) {m : Module} (hm : m ∈ k.modules) :
    (∃ n ∈ g.modules, m.bare = n.bare) ∨ g.find? m.path = none ∧ p.Built files m := by
  induction hlooks generalizing m with
  | refl => exact .inl ⟨m, hm, rfl⟩
  | look hlooks _ hvisit ih =>
    rcases visit_ok hvisit with ⟨_, -, -, rfl, -⟩ | ⟨_, -, -, rfl, -⟩ | ⟨a, hnone, ha, rfl, -⟩
    · exact ih hm
    · have hmem : _ ∈ bare _ := List.mem_map.2 ⟨m, hm, rfl⟩
      rw [bare_addOwner] at hmem
      obtain ⟨n, hn, hbare⟩ := List.mem_map.1 hmem
      rcases ih hn with ⟨old, hold, hn⟩ | ⟨hnone, hbuilt⟩
      · exact .inl ⟨old, hold, hbare.symm.trans hn⟩
      · exact .inr ⟨Module.path_eq_of_bare hbare ▸ hnone, hbuilt.of_bare hbare.symm⟩
    · rcases List.mem_append.1 hm with hm | hm
      · exact ih hm
      · rw [List.mem_singleton.1 hm, Project.moduleOf_path]
        exact .inr ⟨hlooks.extends.find?_eq_none hnone, Project.built_moduleOf ha _⟩

/-- The module came in one of the turns, and is what was found in the files of that turn: its text was
searched then, and its dependencies are those of the search. -/
def BuiltAt (p : Project) (turns : List Turn) (m : Module) : Prop :=
  ∃ earlier turn later, turns = earlier ++ turn :: later ∧ (after p earlier).find? m.path = none ∧
    ((after p (earlier ++ [turn])).find? m.path).isSome ∧ p.Built turn.files m ∧
    ∃ found, extract turn.files p.resolver p.root m.path m.transformed = .ok ⟨m.emitted, found⟩ ∧
      m.dependencies = (found.map (·.id)).eraseDups

theorem builtAt_after (p : Project) (turns : List Turn) {m : Module} (hm : m ∈ (after p turns).modules) :
    BuiltAt p turns m := by
  induction turns using List.reverseRecOn generalizing m with
  | nil => simp [after] at hm
  | append_singleton turns turn ih =>
    rw [after_concat] at hm
    rcases (looks_turn p (after p turns) turn).origin hm with ⟨n, hn, hbare⟩ | ⟨hnone, hbuilt⟩
    · obtain ⟨earlier, first, later, rfl, hnone, hsome, hbuilt, -⟩ := ih hn
      rw [← Module.path_eq_of_bare hbare] at hnone hsome
      have hbuilt := hbuilt.of_bare hbare
      exact ⟨earlier, first, later ++ [turn], by simp, hnone, hsome, hbuilt, hbuilt.exists_extract⟩
    · refine ⟨turns, turn, [], rfl, hnone, ?_, hbuilt, hbuilt.exists_extract⟩
      rw [after_concat, find?, List.find?_isSome]
      exact ⟨m, hm, Path.same_self m.path⟩

/-- After every history of requests, met or failed, the tables of a graph agree with each other. -/
theorem consistent_history (p : Project) (turns : List Turn) :
    let g := after p turns
    Consistent p g ∧
    (∀ k m, g.find? k = some m ↔ m ∈ g.modules ∧ m.path.same k) ∧
    (∀ m ∈ g.modules, BuiltAt p turns m) ∧
    (∀ turn : Turn, Extends turn.request.names g (turn.graph p g)) ∧
    (∀ files names h, Looks p files names g h → Consistent p h ∧ Extends names g h) ∧
    ∀ files entry h path rest e, (visit p files entry h path).result = .error e →
      (walk p files entry h (path :: rest)).graph = h ∧ (walk p files entry h (path :: rest)).result = .error e := by
  have hg := consistent_after p turns
  refine ⟨hg, fun k m => hg.find?_eq_some, fun m hm => builtAt_after p turns hm, fun turn => ?_,
    fun files names h hlooks => ?_, fun files entry h path rest e hvisit => walk_error rest hvisit⟩
  · exact (looks_turn p _ turn).extends
  · exact ⟨hg.looks hlooks, hlooks.extends⟩

end Graph
end Bundler
