import Bundler.Proofs.Compilation.Owners
import Mathlib.Data.List.Perm.Basic

/-!
# Entries side by side

An entry gets the same modules whether it is compiled alone or with others, and the first of several
entries gets the same script.
-/

namespace Bundler

/-- The options with one entry only. -/
def Options.only (options : Options) (e : String × String) : Options := { options with entry := .named [e] }

theorem Options.entries_only (options : Options) (current : Path) (e : String × String) :
    (options.only e).entries current = [options.locate current e] := rfl

theorem Options.project_only (options : Options) (loaders : Registry) (current : Path) (e : String × String) :
    (options.only e).project loaders current = options.project loaders current := rfl

/-! ## Chunks of one entry in two graphs -/

namespace Chunk.OfEntry

variable {p : Project} {files : Files} {S S' : Path → Prop} {g g' : Graph} {e : String × Path} {chunk chunk' : Chunk}

theorem nodup_bare (h : chunk.OfEntry p files g e) (hids : g.Distinct) : (chunk.modules.map Module.bare).Nodup := by
  have hsub : (chunk.modules.map (·.id)).Sublist (g.modules.map (·.id)) := h.sublist.map _
  exact List.Nodup.of_map Module.id (by simpa [Function.comp_def, Module.bare] using hids.sublist hsub)

theorem bare_subset (h : chunk.OfEntry p files g e) (h' : chunk'.OfEntry p files g' e) (hg : Graph.Sound p files S g)
    (hg' : Graph.Sound p files S' g') (hc' : Graph.Covered p files g' []) :
    chunk.modules.map Module.bare ⊆ chunk'.modules.map Module.bare := by
  intro x hx
  obtain ⟨m, hm, rfl⟩ := List.mem_map.1 hx
  obtain ⟨hmem, hlead⟩ := (h.mem_iff m).1 hm
  have hstart : e.2.normal ∈ g'.keys := Graph.mem_keys.2 ⟨chunk'.entry, h'.entry_mem, h'.entry_path⟩
  obtain ⟨k, hk, hpath⟩ := Graph.mem_keys.1 (hc'.mem_keys_of_leads hlead hstart)
  refine List.mem_map.2 ⟨k, (h'.mem_iff k).2 ⟨hk, hpath ▸ hlead⟩, ?_⟩
  exact (hg'.built k hk).bare_eq (hg.built m hmem) hpath

theorem perm_bare (h : chunk.OfEntry p files g e) (h' : chunk'.OfEntry p files g' e) (hids : g.Distinct)
    (hids' : g'.Distinct) (hg : Graph.Sound p files S g) (hg' : Graph.Sound p files S' g')
    (hc : Graph.Covered p files g []) (hc' : Graph.Covered p files g' []) :
    (chunk.modules.map Module.bare).Perm (chunk'.modules.map Module.bare) :=
  (List.perm_ext_iff_of_nodup (h.nodup_bare hids) (h'.nodup_bare hids')).2 fun _ =>
    ⟨fun hx => h.bare_subset h' hg hg' hc' hx, fun hx => h'.bare_subset h hg' hg hc hx⟩

theorem eq_of_sublist {α : Type} {l a b : List α} (hl : l.Nodup) (ha : a.Sublist l) (hb : b.Sublist l)
    (h : ∀ x, x ∈ a ↔ x ∈ b) : a = b :=
  (hl.perm_iff_eq_of_sublist ha hb).1 ((List.perm_ext_iff_of_nodup (hl.sublist ha) (hl.sublist hb)).2 h)

theorem map_bare_eq (h : chunk.OfEntry p files g e) (h' : chunk'.OfEntry p files g' e) (hids : g.Distinct)
    (hids' : g'.Distinct) (hg : Graph.Sound p files S g) (hc' : Graph.Covered p files g' [])
    (hall : ∀ m ∈ g'.modules, p.Leads files e.2.normal m.path) (hstart : g'.bare <+: g.bare) :
    chunk.modules.map Module.bare = chunk'.modules.map Module.bare := by
  -- The chunk of the smaller graph is all of it; that of the larger one is the same start of it.
  have hwhole : chunk'.modules = g'.modules :=
    eq_of_sublist hids'.of_map h'.sublist (List.Sublist.refl _) fun m => by
      rw [h'.mem_iff]
      exact ⟨And.left, fun hm => ⟨hm, hall m hm⟩⟩
  obtain ⟨new, hnew⟩ := hstart
  obtain ⟨first, rest, hsplit, hfirst, -⟩ := List.map_eq_append_iff.1 hnew.symm
  have hpart : chunk.modules = first := by
    refine eq_of_sublist hids.of_map h.sublist (hsplit ▸ List.sublist_append_left first rest) fun m => ?_
    rw [h.mem_iff]
    constructor
    · rintro ⟨hm, hlead⟩
      have hkey : e.2.normal ∈ g'.keys := Graph.mem_keys.2 ⟨chunk'.entry, h'.entry_mem, h'.entry_path⟩
      obtain ⟨k, hk, hkpath⟩ := Graph.mem_keys.1 (hc'.mem_keys_of_leads hlead hkey)
      obtain ⟨n, hn, hbare⟩ := List.mem_map.1 (hfirst ▸ List.mem_map.2 ⟨k, hk, rfl⟩ : k.bare ∈ first.map Module.bare)
      have hpath : n.path = m.path := (Module.path_eq_of_bare hbare).trans hkpath
      have hnmem : n ∈ g.modules := hsplit ▸ List.mem_append_left rest hn
      rwa [← List.inj_on_of_nodup_map hg.nodup hnmem hm hpath]
    · intro hm
      obtain ⟨k, hk, hbare⟩ := List.mem_map.1 (hfirst ▸ List.mem_map.2 ⟨m, hm, rfl⟩ : m.bare ∈ g'.bare)
      have hpath : k.path = m.path := Module.path_eq_of_bare hbare
      exact ⟨hsplit ▸ List.mem_append_left rest hm, hpath ▸ hall k hk⟩
  rw [hpart, hwhole, hfirst, Graph.bare]

end Chunk.OfEntry

theorem Bundle.map_factory_bare (modules : List Module) :
    (modules.map Module.bare).map factory = modules.map factory := by
  rw [List.map_map]
  rfl

theorem Bundle.script_eq (chunk : Chunk) : script chunk =
    header chunk.name ++ opening ++ String.join (chunk.modules.map factory) ++ closing chunk.entry.id := by
  simp only [script, program, String.append_assoc]

/-! ## One entry of several -/

theorem Project.Reached.of_mem {p : Project} {files : Files} {entries : List (String × Path)} {e : String × Path}
    (he : e ∈ entries) {q : Path} (h : p.Reached files [e] q) : p.Reached files entries q := by
  obtain ⟨e', he', hlead⟩ := h
  rw [List.mem_singleton.1 he'] at hlead
  exact ⟨e, he, hlead⟩

theorem Graph.bare_prefix_first {p : Project} {files : Files} {e : String × Path} {rest : List (String × Path)}
    {ids : List (String × String)} (h : (buildEntries p files {} [e]).result = .ok ids) :
    (p.graph files [e]).bare <+: (p.graph files (e :: rest)).bare := by
  obtain ⟨name, path⟩ := e
  obtain ⟨m, -, hm, -, hgraph⟩ := buildEntries_cons_ok h
  have hjoint : p.graph files ((name, path) :: rest) =
      (buildEntries p files (build p files {} name path).graph rest).graph := by
    rw [Project.graph, buildEntries]
    simp only [hm]
  rw [hjoint, Project.graph, hgraph]
  exact bare_prefix_buildEntries _ rest

namespace Compilation

variable {options : Options} {loaders : Registry} {files : Files} {current : Path} {p : Project} {c : Compilation}

theorem Parts.exists_only (hc : Parts options loaders files current p c) (ho : Resolver.Plain ⟨options.extensions⟩)
    {e : String × String} (he : e ∈ options.entry.pairs) :
    ∃ c₁, (compile (options.only e) loaders files current).result = .ok c₁ := by
  have hr := hc.plain ho
  refine exists_compile (hc.project ▸ options.project_only loaders current e) hr (by simp [Options.entries_only])
    (fun q hq => ?_) (by simp [Options.entries_only])
  have hmem : options.locate current e ∈ options.entries current :=
    options.entries_eq current ▸ List.mem_map.2 ⟨e, he, rfl⟩
  rw [Options.entries_only] at hq
  exact (Graph.buildEntries_ok_iff hr).1 ⟨_, hc.built⟩ q (.of_mem hmem hq)

theorem buildEntries_of_only (hp : options.project loaders current = .ok p)
    (ho : Resolver.Plain ⟨options.extensions⟩)
    (h : ∀ e ∈ options.entry.pairs, ∃ c₁, (compile (options.only e) loaders files current).result = .ok c₁) :
    ∀ q, p.Reached files (options.entries current) q → ∃ a, p.analyse files q = .ok a := by
  rintro q ⟨e, he, hlead⟩
  rw [options.entries_eq current] at he
  obtain ⟨pair, hpair, rfl⟩ := List.mem_map.1 he
  obtain ⟨c₁, hc₁⟩ := h pair hpair
  obtain ⟨p₁, hparts⟩ := compile_ok hc₁
  obtain rfl : p₁ = p := Except.ok.inj (hparts.project.symm.trans hp)
  refine (Graph.buildEntries_ok_iff (hparts.plain ho)).1 ⟨_, hparts.built⟩ q ?_
  rw [Options.entries_only]
  exact ⟨_, by simp, hlead⟩

theorem Parts.exists_chunks_only (hc : Parts options loaders files current p c)
    (ho : Resolver.Plain ⟨options.extensions⟩) (hids : (p.graph files (options.entries current)).Distinct)
    {e : String × String} (he : e ∈ options.entry.pairs) {c₁ : Compilation}
    (hc₁ : Parts (options.only e) loaders files current p c₁) :
    (p.graph files [options.locate current e]).Distinct ∧ ∃ chunk chunk₁, chunk ∈ c.chunks ∧ c₁.chunks = [chunk₁] ∧
      chunk.OfEntry p files (p.graph files (options.entries current)) (options.locate current e) ∧
      chunk₁.OfEntry p files (p.graph files [options.locate current e]) (options.locate current e) := by
  have hmem : options.locate current e ∈ options.entries current :=
    options.entries_eq current ▸ List.mem_map.2 ⟨e, he, rfl⟩
  have hg := hc.complete ho
  have hsep := hids.separate hg.sound hg.mem_keys_iff
  have hids₁ : (p.graph files [options.locate current e]).Distinct :=
    (hc₁.complete ho).sound.distinct fun a b ha hb => hsep a b (.of_mem hmem ha) (.of_mem hmem hb)
  obtain ⟨chunk, hchunk, hof⟩ := exists_left_of_forall₂ (List.Forall₂.flip (hc.forall₂_chunks ho hids)) hmem
  obtain ⟨chunk₁, none, hof₁, hnone, hchunks₁⟩ := List.forall₂_cons_left_iff.1 (hc₁.forall₂_chunks ho hids₁)
  rw [List.forall₂_nil_left_iff.1 hnone] at hchunks₁
  exact ⟨hids₁, chunk, chunk₁, hchunk, hchunks₁, hof, hof₁⟩

theorem Parts.bare_prefix_only {e : String × String} (hhead : options.entry.pairs.head? = some e) {c₁ : Compilation}
    (hc₁ : Parts (options.only e) loaders files current p c₁) :
    (p.graph files [options.locate current e]).bare <+: (p.graph files (options.entries current)).bare := by
  obtain ⟨rest, hpairs⟩ := List.head?_eq_some_iff.1 hhead
  rw [options.entries_eq current, hpairs, List.map_cons]
  exact Graph.bare_prefix_first hc₁.built

/-- An entry compiles alone as it does with others, but for the order of the factories in its script. -/
theorem entries_independent (options : Options) (loaders : Registry) (files : Files) (current : Path)
    (ho : Resolver.Plain ⟨options.extensions⟩) (p : Project) (hp : options.project loaders current = .ok p) :
    (∀ c, (compile options loaders files current).result = .ok c →
      (p.graph files (options.entries current)).Distinct →
      ∀ e ∈ options.entry.pairs, ∃ c₁ chunk chunk₁,
        (compile (options.only e) loaders files current).result = .ok c₁ ∧
        chunk ∈ c.chunks ∧ c₁.chunks = [chunk₁] ∧ chunk.name = e.1 ∧ chunk₁.name = e.1 ∧
        (chunk.modules.map Module.bare).Perm (chunk₁.modules.map Module.bare) ∧
        (∃ front back,
          c.asset? (options.output.filenameFor e.1) =
            some (front ++ String.join (chunk.modules.map Bundle.factory) ++ back) ∧
          c₁.asset? (options.output.filenameFor e.1) =
            some (front ++ String.join (chunk₁.modules.map Bundle.factory) ++ back) ∧
          (chunk.modules.map Bundle.factory).Perm (chunk₁.modules.map Bundle.factory)) ∧
        (options.entry.pairs.head? = some e →
          c.asset? (options.output.filenameFor e.1) = c₁.asset? (options.output.filenameFor e.1))) ∧
    ((∀ e ∈ options.entry.pairs, ∃ c₁, (compile (options.only e) loaders files current).result = .ok c₁) →
      (options.entry.pairs.map fun e => options.output.filenameFor e.1).Nodup →
      (∃ ids, (Graph.buildEntries p files {} (options.entries current)).result = .ok ids) ∧
      (options.entry.pairs ≠ [] → ∃ c, (compile options loaders files current).result = .ok c)) := by
  constructor
  · intro c h hids e he
    obtain ⟨p', hc⟩ := compile_ok h
    obtain rfl : p' = p := Except.ok.inj (hc.project.symm.trans hp)
    obtain ⟨c₁, h₁⟩ := hc.exists_only ho he
    obtain ⟨p₁, hc₁⟩ := compile_ok h₁
    obtain rfl : p₁ = p' := Except.ok.inj (hc₁.project.symm.trans hp)
    obtain ⟨hids₁, chunk, chunk₁, hchunk, hchunks₁, hof, hof₁⟩ := hc.exists_chunks_only ho hids he hc₁
    have hg := hc.complete ho
    have hg₁ := hc₁.complete ho
    have hperm := hof.perm_bare hof₁ hids hids₁ hg.sound hg₁.sound hg.covered hg₁.covered
    have hasset := hc.asset?_eq hchunk
    have hasset₁ := hc₁.asset?_eq (hchunks₁ ▸ List.mem_singleton_self chunk₁)
    have hentry : chunk.entry.id = chunk₁.entry.id := by
      rw [(hg.sound.built _ hof.entry_mem).id_eq, (hg₁.sound.built _ hof₁.entry_mem).id_eq, hof.entry_path,
        hof₁.entry_path]
    rw [Bundle.script_eq, hof.name_eq] at hasset
    rw [Bundle.script_eq, hof₁.name_eq, ← hentry] at hasset₁
    refine ⟨c₁, chunk, chunk₁, h₁, hchunk, hchunks₁, hof.name_eq, hof₁.name_eq, hperm,
      ⟨_, _, hasset, hasset₁, ?_⟩, fun hhead => ?_⟩
    · rw [← Bundle.map_factory_bare chunk.modules, ← Bundle.map_factory_bare chunk₁.modules]
      exact hperm.map _
    · have hall : ∀ m ∈ (p₁.graph files [options.locate current e]).modules,
          p₁.Leads files (options.locate current e).2.normal m.path := by
        intro m hm
        obtain ⟨e', he', hlead⟩ := (hg₁.mem_keys_iff _).1 (Graph.mem_keys.2 ⟨m, hm, rfl⟩)
        rw [Options.entries_only, List.mem_singleton] at he'
        rwa [he'] at hlead
      have hsame := hof.map_bare_eq hof₁ hids hids₁ hg.sound hg₁.covered hall (hc₁.bare_prefix_only hhead)
      have hfactories : chunk.modules.map Bundle.factory = chunk₁.modules.map Bundle.factory := by
        rw [← Bundle.map_factory_bare, hsame, Bundle.map_factory_bare]
      exact (hasset.trans (hfactories ▸ rfl)).trans hasset₁.symm
  · intro honly hfiles
    have hr : p.resolver.Plain := (project_ok hp).2 ▸ ho
    have hall := buildEntries_of_only hp ho honly
    refine ⟨(Graph.buildEntries_ok_iff hr).2 hall, fun hne => exists_compile hp hr ?_ hall ?_⟩
    · simpa [options.entries_eq] using hne
    · simpa [options.entries_eq, Options.locate, Function.comp_def] using hfiles

theorem entries_independent_ring : ∃ c, (compile ringOptions ⟨[]⟩ ring ⟨"/app"⟩).result = .ok c ∧
    (∀ e ∈ ringOptions.entry.pairs, ∃ c₁ chunk chunk₁,
      (compile (ringOptions.only e) ⟨[]⟩ ring ⟨"/app"⟩).result = .ok c₁ ∧
      chunk ∈ c.chunks ∧ c₁.chunks = [chunk₁] ∧ chunk.name = e.1 ∧
      (chunk.modules.map Module.bare).Perm (chunk₁.modules.map Module.bare) ∧
      (e.1 = "main" → c.asset? "main.js" = c₁.asset? "main.js")) ∧
    ∃ ids, (Graph.buildEntries ringProject ring {} (ringOptions.entries ⟨"/app"⟩)).result = .ok ids := by
  obtain ⟨c, hc⟩ := ring_compiles
  obtain ⟨halone, htogether⟩ :=
    entries_independent ringOptions ⟨[]⟩ ring ⟨"/app"⟩ ring_plain ringProject ring_project
  refine ⟨c, hc, fun e he => ?_, (htogether (fun e he => ?_) (by decide +kernel)).1⟩
  · obtain ⟨c₁, chunk, chunk₁, hc₁, hmem, hone, hname, -, hperm, -, hfirst⟩ := halone c hc ring_distinct e he
    refine ⟨c₁, chunk, chunk₁, hc₁, hmem, hone, hname, hperm, fun hmain => ?_⟩
    have hhead : ringOptions.entry.pairs.head? = some e := by
      rcases List.mem_cons.1 he with rfl | he
      · rfl
      · rw [List.mem_singleton.1 he] at hmain
        exact absurd hmain (by decide)
    have hfile : ringOptions.output.filenameFor "main" = "main.js" := by decide +kernel
    simpa only [hmain, hfile] using hfirst hhead
  · obtain ⟨c₁, -, -, hc₁, -⟩ := halone c hc ring_distinct e he
    exact ⟨c₁, hc₁⟩

end Compilation
end Bundler
