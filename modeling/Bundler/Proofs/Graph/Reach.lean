import Bundler.Proofs.Graph.Step
import Mathlib.Logic.Relation

/-!
# Which files are in the graph

A build puts into the graph exactly the files that its entries lead to, each of them once.
-/

namespace Bundler

/-- A module without its owners. -/
def Module.bare (m : Module) : Module := { m with owners := [] }

theorem Module.path_eq_of_bare {m n : Module} (h : m.bare = n.bare) : m.path = n.path := by
  simpa [bare] using congrArg Module.path h

namespace Project

/-- The file at `a` asks for the file at `b`. -/
def Asks (p : Project) (files : Files) (a b : Path) : Prop :=
  ∃ found, p.analyse files a = .ok found ∧ ∃ d ∈ found.dependencies, d.path = b

/-- The file at `a` asks for the file at `b`, directly or through others. -/
def Leads (p : Project) (files : Files) : Path → Path → Prop := Relation.ReflTransGen (p.Asks files)

/-- Some entry leads to the file at `q`. -/
def Reached (p : Project) (files : Files) (entries : List (String × Path)) (q : Path) : Prop :=
  ∃ e ∈ entries, p.Leads files e.2.normal q

/-- The module is what is found in its file. -/
def Built (p : Project) (files : Files) (m : Module) : Prop :=
  ∃ a, p.analyse files m.path = .ok a ∧ m.bare = (p.moduleOf m.path "" a).bare

variable {p : Project} {files : Files}

@[simp] theorem moduleOf_id (path : Path) (entry : String) (a : Analysis) :
    (p.moduleOf path entry a).id = Path.idFrom p.root path := by simp only [moduleOf]

@[simp] theorem moduleOf_path (path : Path) (entry : String) (a : Analysis) :
    (p.moduleOf path entry a).path = path := by simp only [moduleOf]

theorem built_moduleOf {path : Path} {a : Analysis} (ha : p.analyse files path = .ok a) (entry : String) :
    p.Built files (p.moduleOf path entry a) := by
  refine ⟨a, by rw [moduleOf_path]; exact ha, ?_⟩
  simp only [moduleOf, Module.bare]

theorem Asks.hit (hr : p.resolver.Plain) {a b : Path} (h : p.Asks files a b) :
    Resolver.Hit files (a.parent?.getD p.root) b := by
  obtain ⟨found, hfound, d, hd, rfl⟩ := h
  exact Resolver.hit_of_resolve hr (dependency_of_analyse hfound hd).1

theorem Asks.isAbsolute (hr : p.resolver.Plain) (hroot : p.root.isAbsolute) {a b : Path} (h : p.Asks files a b)
    (ha : a.isAbsolute) : b.isAbsolute := by
  apply (h.hit hr).isAbsolute
  cases hparent : a.parent? with
  | none => exact hroot
  | some folder => exact Path.isAbsolute_parent ha hparent

theorem Built.id_eq {m : Module} (h : p.Built files m) : m.id = Path.idFrom p.root m.path := by
  obtain ⟨a, -, hm⟩ := h
  simpa [Module.bare, moduleOf] using congrArg Module.id hm

theorem Built.bare_eq {m n : Module} (hm : p.Built files m) (hn : p.Built files n) (h : m.path = n.path) :
    m.bare = n.bare := by
  obtain ⟨a, ha, hma⟩ := hm
  obtain ⟨b, hb, hnb⟩ := hn
  rw [h, hb] at ha
  cases ha
  rw [hma, hnb, h]

theorem Built.mem_dependencies_iff {m : Module} (h : p.Built files m) {id : String} :
    id ∈ m.dependencies ↔ ∃ q, p.Asks files m.path q ∧ Path.idFrom p.root q = id := by
  obtain ⟨a, ha, hm⟩ := h
  have hdeps : m.dependencies = (a.dependencies.map (·.id)).eraseDups := by
    simpa [Module.bare, moduleOf] using congrArg Module.dependencies hm
  rw [hdeps, List.mem_eraseDups, List.mem_map]
  constructor
  · rintro ⟨d, hd, rfl⟩
    exact ⟨d.path, ⟨a, ha, d, hd, rfl⟩, (dependency_of_analyse ha hd).2.symm⟩
  · rintro ⟨q, ⟨found, hfound, d, hd, rfl⟩, rfl⟩
    rw [ha] at hfound
    cases hfound
    exact ⟨d, hd, (dependency_of_analyse ha hd).2⟩

end Project

namespace Graph

/-- The paths of the modules. -/
def keys (g : Graph) : List Path := g.modules.map (·.path)

theorem mem_keys {g : Graph} {q : Path} : q ∈ g.keys ↔ ∃ m ∈ g.modules, m.path = q := List.mem_map

theorem keys_add (g : Graph) (m : Module) : (g.add m).keys = g.keys ++ [m.path] := by simp [keys, add]

theorem keys_addOwner (g : Graph) (path : Path) (entry : String) : (g.addOwner path entry).keys = g.keys := by
  simp only [keys, addOwner, List.map_map]
  refine List.map_congr_left fun m _ => ?_
  simp only [Function.comp]
  split <;> rfl

theorem pathOf?_add (g : Graph) (m : Module) (id : String) :
    (g.add m).pathOf? id = if id = m.id then some m.path else g.pathOf? id :=
  lookup_upsert m.id m.path g.paths id

theorem pathOf?_addOwner (g : Graph) (path : Path) (entry : String) (id : String) :
    (g.addOwner path entry).pathOf? id = g.pathOf? id := rfl

/-! ## Graphs of a set of files -/

section
variable (p : Project) (files : Files) (S : Path → Prop)

/-- A set of paths in normal form that holds what its files ask for. -/
structure Domain : Prop where
  normal : ∀ q, S q → q.Normal
  asks : ∀ a b, S a → p.Asks files a b → S b

/-- The graph holds files of a set, each once and as it is found, and knows the paths of their ids. -/
structure Sound (g : Graph) : Prop where
  within : ∀ q ∈ g.keys, S q
  nodup : g.keys.Nodup
  built : ∀ m ∈ g.modules, p.Built files m
  path_mem : ∀ id q, g.pathOf? id = some q → q ∈ g.keys ∧ Path.idFrom p.root q = id
  path_some : ∀ q ∈ g.keys, (g.pathOf? (Path.idFrom p.root q)).isSome

/-- What the files of the graph ask for is in the graph or is looked at later. -/
def Covered (g : Graph) (pending : List Path) : Prop :=
  ∀ a ∈ g.keys, ∀ b, p.Asks files a b → b ∈ g.keys ∨ b ∈ pending
end

variable {p : Project} {files : Files} {S : Path → Prop} {g : Graph}

theorem path_same_of_find? {q : Path} {m : Module} (h : g.find? q = some m) : m.path.same q := by
  simpa using List.find?_some h

theorem Sound.normal (hS : Domain p files S) (hg : Sound p files S g) {m : Module} (hm : m ∈ g.modules) :
    m.path.Normal :=
  hS.normal _ (hg.within _ (mem_keys.2 ⟨m, hm, rfl⟩))

theorem Sound.find?_eq_some (hS : Domain p files S) (hg : Sound p files S g) {q : Path} (hq : S q) {m : Module} :
    g.find? q = some m ↔ m ∈ g.modules ∧ m.path = q := by
  have hfound : ∀ k, g.find? q = some k → k ∈ g.modules ∧ k.path = q := fun k h => by
    have hk := List.mem_of_find?_eq_some h
    exact ⟨hk, (hg.normal hS hk).eq_of_same (hS.normal _ hq) (path_same_of_find? h)⟩
  refine ⟨hfound m, ?_⟩
  rintro ⟨hm, rfl⟩
  cases hf : g.find? m.path with
  | none =>
    have := List.find?_eq_none.1 hf m hm
    exact absurd (Path.same_self m.path) this
  | some k =>
    obtain ⟨hk, hpath⟩ := hfound k hf
    rw [List.inj_on_of_nodup_map hg.nodup hk hm hpath]

theorem Sound.find?_eq_none (hS : Domain p files S) (hg : Sound p files S g) {q : Path} (hq : S q) :
    g.find? q = none ↔ q ∉ g.keys := by
  rw [← not_iff_not, not_not, ← ne_eq, Option.ne_none_iff_exists', mem_keys]
  simp only [hg.find?_eq_some hS hq]

/-! ## One look -/

theorem Sound.addOwner (hg : Sound p files S g) (path : Path) (entry : String) :
    Sound p files S (g.addOwner path entry) := by
  refine ⟨by simpa [keys_addOwner] using hg.within, by simpa [keys_addOwner] using hg.nodup, ?_,
    by simpa [keys_addOwner, pathOf?_addOwner] using hg.path_mem,
    by simpa [keys_addOwner, pathOf?_addOwner] using hg.path_some⟩
  intro m hm
  obtain ⟨k, hk, rfl⟩ := List.mem_map.1 hm
  obtain ⟨a, ha, hbare⟩ := hg.built k hk
  split
  · exact ⟨a, ha, hbare⟩
  · exact ⟨a, ha, hbare⟩

theorem Sound.add (hg : Sound p files S g) {path : Path} (hq : S path) (hnew : path ∉ g.keys) {a : Analysis}
    (ha : p.analyse files path = .ok a) (entry : String) :
    Sound p files S (g.add (p.moduleOf path entry a)) := by
  have hkeys : (g.add (p.moduleOf path entry a)).keys = g.keys ++ [path] := by
    rw [keys_add, Project.moduleOf_path]
  have hpath : ∀ id, (g.add (p.moduleOf path entry a)).pathOf? id =
      if id = Path.idFrom p.root path then some path else g.pathOf? id := fun id => by
    rw [pathOf?_add, Project.moduleOf_id, Project.moduleOf_path]
  refine ⟨?_, ?_, ?_, ?_, ?_⟩
  · rw [hkeys]
    intro q hq'
    rcases List.mem_append.1 hq' with hq' | hq'
    · exact hg.within q hq'
    · rw [List.mem_singleton.1 hq']
      exact hq
  · rw [hkeys]
    refine List.nodup_append.2 ⟨hg.nodup, by simp, ?_⟩
    intro q hq' b hb he
    rw [List.mem_singleton] at hb
    exact hnew (hb ▸ he ▸ hq')
  · intro m hm
    rcases List.mem_append.1 hm with hm | hm
    · exact hg.built m hm
    · rw [List.mem_singleton.1 hm]
      exact Project.built_moduleOf ha entry
  · intro id q
    rw [hpath, hkeys]
    split
    · next hid =>
      intro he
      rw [← Option.some.inj he]
      exact ⟨by simp, hid.symm⟩
    · intro he
      obtain ⟨hmem, hid⟩ := hg.path_mem id q he
      exact ⟨by simp [hmem], hid⟩
  · rw [hkeys]
    intro q hq'
    rw [hpath]
    split
    · rfl
    · next hid =>
      rcases List.mem_append.1 hq' with hq' | hq'
      · exact hg.path_some q hq'
      · rw [List.mem_singleton.1 hq'] at hid
        exact absurd rfl hid

/-- A walk through the files of a set that will come to all files of `T`. -/
structure Walking (p : Project) (files : Files) (S T : Path → Prop) (g : Graph) (pending : List Path) : Prop where
  sound : Sound p files S g
  within : ∀ q ∈ pending, S q
  covered : Covered p files g pending
  comes : ∀ q, T q → q ∈ g.keys ∨ q ∈ pending

theorem Walking.visit (hS : Domain p files S) {T : Path → Prop} {entry : String} {g' : Graph} {path : Path}
    {rest next : List Path} (hw : Walking p files S T g (path :: rest))
    (h : (visit p files entry g path).result = .ok (g', next)) : Walking p files S T g' (next ++ rest) := by
  have hpath : S path := hw.within path (by simp)
  have hrest : ∀ q ∈ rest, S q := fun q hq => hw.within q (by simp [hq])
  -- Where the keys stay and hold the path, nothing that was waited for is lost.
  have hstay : ∀ {q}, path ∈ g.keys → q ∈ g.keys ∨ q ∈ path :: rest → q ∈ g.keys ∨ q ∈ next ++ rest := by
    intro q hmem hq
    rcases hq with hq | hq
    · exact .inl hq
    · rcases List.mem_cons.1 hq with rfl | hq
      · exact .inl hmem
      · exact .inr (by simp [hq])
  rcases visit_ok h with ⟨m, hm, -, rfl, rfl⟩ | ⟨m, hm, -, rfl, rfl⟩ | ⟨a, hnone, ha, rfl, rfl⟩
  · have hmem : path ∈ g'.keys := mem_keys.2 ⟨m, (hw.sound.find?_eq_some hS hpath).1 hm⟩
    exact ⟨hw.sound, hrest, fun a ha b hab => hstay hmem (hw.covered a ha b hab),
      fun q hq => hstay hmem (hw.comes q hq)⟩
  · have hmem : path ∈ g.keys := mem_keys.2 ⟨m, (hw.sound.find?_eq_some hS hpath).1 hm⟩
    refine ⟨hw.sound.addOwner path entry, ?_, ?_, ?_⟩
    · intro q hq
      rcases List.mem_append.1 hq with hq | hq
      · obtain ⟨id, -, hid⟩ := List.mem_filterMap.1 hq
        exact hw.sound.within q (hw.sound.path_mem id q hid).1
      · exact hrest q hq
    · rw [Covered, keys_addOwner]
      exact fun a ha b hab => hstay hmem (hw.covered a ha b hab)
    · rw [keys_addOwner]
      exact fun q hq => hstay hmem (hw.comes q hq)
  · have hnew := (hw.sound.find?_eq_none hS hpath).1 hnone
    have hkeys : (g.add (p.moduleOf path entry a)).keys = g.keys ++ [path] := by
      rw [keys_add, Project.moduleOf_path]
    have hmove : ∀ {q}, q ∈ g.keys ∨ q ∈ path :: rest →
        q ∈ g.keys ++ [path] ∨ q ∈ a.dependencies.map (·.path) ++ rest := by
      intro q hq
      rcases hq with hq | hq
      · exact .inl (by simp [hq])
      · rcases List.mem_cons.1 hq with rfl | hq
        · exact .inl (by simp)
        · exact .inr (by simp [hq])
    refine ⟨hw.sound.add hpath hnew ha entry, ?_, ?_, ?_⟩
    · intro q hq
      rcases List.mem_append.1 hq with hq | hq
      · obtain ⟨d, hd, rfl⟩ := List.mem_map.1 hq
        exact hS.asks path d.path hpath ⟨a, ha, d, hd, rfl⟩
      · exact hrest q hq
    · rw [Covered, hkeys]
      intro q hq b hab
      rcases List.mem_append.1 hq with hq | hq
      · exact hmove (hw.covered q hq b hab)
      · rw [List.mem_singleton.1 hq] at hab
        obtain ⟨found, hfound, d, hd, rfl⟩ := hab
        rw [ha] at hfound
        cases hfound
        exact .inr (List.mem_append_left _ (List.mem_map.2 ⟨d, hd, rfl⟩))
    · rw [hkeys]
      exact fun q hq => hmove (hw.comes q hq)

/-- A walk comes to its end, or to a file of the set in which nothing can be found. -/
theorem Walking.walk (hS : Domain p files S) {T : Path → Prop} (entry : String) {pending : List Path}
    (hw : Walking p files S T g pending) :
    ((walk p files entry g pending).result = .ok () ∧ Walking p files S T (walk p files entry g pending).graph []) ∨
    ∃ e q, (walk p files entry g pending).result = .error e ∧ S q ∧ p.analyse files q = .error e := by
  rcases walk_keeps (Walking p files S T) (fun _ _ _ _ _ hw h => hw.visit hS h) hw with
    h | ⟨q, rest, e, hresult, hstop, hvisit⟩
  · exact .inl h
  · exact .inr ⟨e, q, hresult, hstop.within q (by simp), (visit_error hvisit).2⟩

/-! ## Builds -/

theorem build_result (entry : String) (path : Path) : (build p files g entry path).result =
    (walk p files entry g [path.normal]).result >>= fun _ =>
      match (walk p files entry g [path.normal]).graph.find? path.normal with
      | some m => .ok m
      | none => .error (.unknownModule (Path.idFrom p.root path.normal)) := rfl

theorem build_graph (entry : String) (path : Path) :
    (build p files g entry path).graph = (walk p files entry g [path.normal]).graph := rfl

theorem find?_of_build_ok {entry : String} {path : Path} {m : Module}
    (h : (build p files g entry path).result = .ok m) :
    (build p files g entry path).graph.find? path.normal = some m := by
  rw [build_result] at h
  obtain ⟨_, -, h⟩ := bind_eq_ok.1 h
  rw [build_graph]
  split at h
  · next hfound =>
    cases h
    exact hfound
  · cases h

/-- The files of a finished build: those of the graph before, and all that the path leads to. -/
structure Finished (p : Project) (files : Files) (S : Path → Prop) (before after : Graph) : Prop where
  sound : Sound p files S after
  covered : Covered p files after []
  keeps : ∀ q ∈ before.keys, q ∈ after.keys

theorem build_spec (hS : Domain p files S) (hg : Sound p files S g) (hc : Covered p files g []) (entry : String)
    {path : Path} (hpath : S path.normal) :
    (∃ m, (build p files g entry path).result = .ok m ∧ m.path = path.normal ∧
      m ∈ (build p files g entry path).graph.modules ∧ Finished p files S g (build p files g entry path).graph) ∨
    ∃ e q, (build p files g entry path).result = .error e ∧ S q ∧ p.analyse files q = .error e := by
  have hstart : Walking p files S (fun q => q ∈ g.keys ∨ q = path.normal) g [path.normal] :=
    ⟨hg, by simpa using hpath, fun a ha b hab => (hc a ha b hab).imp id (by simp), by simp⟩
  rw [build_result, build_graph]
  rcases hstart.walk hS entry with ⟨hresult, hend⟩ | ⟨e, q, hresult, hq, ha⟩
  · have hmem : path.normal ∈ (walk p files entry g [path.normal]).graph.keys := by
      simpa using hend.comes path.normal (.inr rfl)
    obtain ⟨m, hm, hmp⟩ := mem_keys.1 hmem
    refine .inl ⟨m, ?_, hmp, hm, hend.sound, hend.covered, fun q hq => ?_⟩
    · rw [hresult, (hend.sound.find?_eq_some hS hpath).2 ⟨hm, hmp⟩]
      rfl
    · simpa using hend.comes q (.inl hq)
  · refine .inr ⟨e, q, ?_, hq, ha⟩
    rw [hresult]
    rfl

theorem buildEntries_spec (hS : Domain p files S) (hg : Sound p files S g) (hc : Covered p files g [])
    {entries : List (String × Path)} (hentries : ∀ e ∈ entries, S e.2.normal) :
    ((buildEntries p files g entries).result =
        .ok (entries.map fun e => (e.1, Path.idFrom p.root e.2.normal)) ∧
      Finished p files S g (buildEntries p files g entries).graph ∧
      ∀ e ∈ entries, e.2.normal ∈ (buildEntries p files g entries).graph.keys) ∨
    ∃ e q, (buildEntries p files g entries).result = .error e ∧ S q ∧ p.analyse files q = .error e := by
  induction entries generalizing g with
  | nil => exact .inl ⟨rfl, ⟨hg, hc, fun _ => id⟩, by simp⟩
  | cons first rest ih =>
    obtain ⟨name, path⟩ := first
    rw [List.forall_mem_cons] at hentries
    unfold buildEntries
    simp only
    rcases build_spec hS hg hc name hentries.1 with ⟨m, hm, hmp, hmem, hfin⟩ | ⟨e, q, he, hq, ha⟩
    · rw [hm]
      have hid : m.id = Path.idFrom p.root path.normal := by
        rw [(hfin.sound.built m hmem).id_eq, hmp]
      simp only
      rcases ih hfin.sound hfin.covered hentries.2 with ⟨hok, hrest, hkeys⟩ | ⟨e, q, he, hq, ha⟩
      · refine .inl ⟨?_, ⟨hrest.sound, hrest.covered, fun q hq => hrest.keeps q (hfin.keeps q hq)⟩, ?_⟩
        · rw [hok, hid]
          rfl
        · rw [List.forall_mem_cons]
          exact ⟨hrest.keeps _ (mem_keys.2 ⟨m, hmem, hmp⟩), hkeys⟩
      · refine .inr ⟨e, q, ?_, hq, ha⟩
        rw [he]
        rfl
    · rw [he]
      exact .inr ⟨e, q, rfl, hq, ha⟩

/-! ## What stays -/

/-- The modules of a graph without their owners. -/
def bare (g : Graph) : List Module := g.modules.map Module.bare

theorem bare_add (g : Graph) (m : Module) : (g.add m).bare = g.bare ++ [m.bare] := by simp [bare, add]

theorem bare_addOwner (g : Graph) (path : Path) (entry : String) : (g.addOwner path entry).bare = g.bare := by
  simp only [bare, addOwner, List.map_map]
  refine List.map_congr_left fun m _ => ?_
  simp only [Function.comp]
  split <;> rfl

theorem bare_prefix_walk (entry : String) (g : Graph) (pending : List Path) :
    g.bare <+: (walk p files entry g pending).graph.bare := by
  have step : ∀ h path (_rest : List Path) h' next, g.bare <+: h.bare →
      (visit p files entry h path).result = .ok (h', next) → g.bare <+: h'.bare := by
    intro h path _ h' next hpre hvisit
    rcases visit_ok hvisit with ⟨m, -, -, rfl, -⟩ | ⟨m, -, -, rfl, -⟩ | ⟨a, -, -, rfl, -⟩
    · exact hpre
    · rwa [bare_addOwner]
    · rw [bare_add]
      exact hpre.trans (List.prefix_append _ _)
  rcases walk_keeps (fun h _ => g.bare <+: h.bare) step (List.prefix_rfl : g.bare <+: g.bare) with
    ⟨-, hend⟩ | ⟨_, _, _, -, hstop, -⟩
  · exact hend
  · exact hstop

theorem bare_prefix_buildEntries (g : Graph) (entries : List (String × Path)) :
    g.bare <+: (buildEntries p files g entries).graph.bare := by
  induction entries generalizing g with
  | nil => exact List.prefix_rfl
  | cons first rest ih =>
    obtain ⟨name, path⟩ := first
    have hfirst : g.bare <+: (build p files g name path).graph.bare := bare_prefix_walk name g [path.normal]
    rw [buildEntries]
    cases (build p files g name path).result with
    | error e => exact hfirst
    | ok m => exact hfirst.trans (ih _)

/-! ## Fresh graphs -/

theorem domain_reached (hr : p.resolver.Plain) (files : Files) (entries : List (String × Path)) :
    Domain p files (p.Reached files entries) := by
  constructor
  · rintro q ⟨e, -, hlead⟩
    cases hlead with
    | refl => exact Path.normal_normal _
    | tail _ hab => exact (hab.hit hr).normal
  · rintro a b ⟨e, he, hlead⟩ hab
    exact ⟨e, he, hlead.tail hab⟩

theorem sound_empty : Sound p files S {} :=
  ⟨by simp [keys], by simp [keys], by simp, by simp [pathOf?], by simp [keys]⟩

theorem covered_empty : Covered p files {} [] := by simp [Covered, keys]

theorem Covered.mem_keys_of_leads {a b : Path} (hc : Covered p files g []) (h : p.Leads files a b)
    (ha : a ∈ g.keys) : b ∈ g.keys := by
  induction h with
  | refl => exact ha
  | tail _ hab ih => simpa using hc _ ih _ hab

theorem buildEntries_fresh (hr : p.resolver.Plain) (files : Files) (entries : List (String × Path)) :
    ((buildEntries p files {} entries).result =
        .ok (entries.map fun e => (e.1, Path.idFrom p.root e.2.normal)) ∧
      Sound p files (p.Reached files entries) (buildEntries p files {} entries).graph ∧
      Covered p files (buildEntries p files {} entries).graph [] ∧
      ∀ q, q ∈ (buildEntries p files {} entries).graph.keys ↔ p.Reached files entries q) ∨
    ∃ e q, (buildEntries p files {} entries).result = .error e ∧ p.Reached files entries q ∧
      p.analyse files q = .error e := by
  rcases buildEntries_spec (domain_reached hr files entries) sound_empty covered_empty
    (fun e he => ⟨e, he, .refl⟩) with ⟨hok, hfin, hkeys⟩ | herr
  · refine .inl ⟨hok, hfin.sound, hfin.covered, fun q => ⟨hfin.sound.within q, ?_⟩⟩
    rintro ⟨e, he, hlead⟩
    exact hfin.covered.mem_keys_of_leads hlead (hkeys e he)
  · exact .inr herr

end Graph
end Bundler
