import Bundler.Proofs.Compilation.Chunks
import Bundler.Proofs.Compilation.Reached

/-!
# Owners and chunks

The owners that a walk gives to a module are the entries whose chunks hold it.
-/

namespace Bundler

theorem Chunk.OfEntry.contains_iff {p : Project} {files : Files} {g : Graph} {e : String × Path} {chunk : Chunk}
    (h : chunk.OfEntry p files g e) (hids : g.Distinct) {m : Module} (hm : m ∈ g.modules) :
    chunk.contains m.id ↔ m ∈ chunk.modules := by
  rw [Chunk.contains, List.any_eq_true]
  constructor
  · rintro ⟨k, hk, hid⟩
    have hkg : k ∈ g.modules := h.sublist.subset hk
    rwa [← List.inj_on_of_nodup_map hids hkg hm (by simpa using hid)]
  · exact fun hmem => ⟨m, hmem, by simp⟩

namespace Compilation

variable {options : Options} {loaders : Registry} {files : Files} {current : Path} {p : Project} {c : Compilation}

theorem entries_normal (options : Options) (current : Path) {e : String × Path}
    (he : e ∈ options.entries current) : e.2.normal = e.2 := by
  rw [options.entries_eq] at he
  obtain ⟨pair, -, rfl⟩ := List.mem_map.1 he
  exact (Path.normal_normal _).normal_eq

theorem Parts.nodup_names (hc : Parts options loaders files current p c) (ho : Resolver.Plain ⟨options.extensions⟩) :
    ((options.entries current).map (·.1)).Nodup := by
  obtain ⟨hentries, -⟩ := Graph.complete_of_ok (hc.plain ho) hc.built
  have hnames : c.chunks.map (·.name) = (options.entries current).map (·.1) := by
    rw [map_name_chunks (hc.modules ▸ Graph.keyed_table _) hc.chunks, hentries, List.map_map]
    rfl
  have hfiles : c.assets.map (·.1) = ((options.entries current).map (·.1)).map options.output.filenameFor := by
    rw [← hnames, hc.assets, List.map_map, List.map_map]
    rfl
  exact List.Nodup.of_map _ (hfiles ▸ hc.files)

theorem Parts.owners_eq (hc : Parts options loaders files current p c) (ho : Resolver.Plain ⟨options.extensions⟩)
    (hids : (p.graph files (options.entries current)).Distinct) {m : Module}
    (hm : m ∈ (p.graph files (options.entries current)).modules) (leads : String × Path → Bool)
    (hleads : ∀ e ∈ options.entries current, leads e ↔ p.Leads files e.2.normal m.path) :
    m.owners = ((options.entries current).filter leads).map (·.1) := by
  have hr := hc.plain ho
  have hg := hc.complete ho
  have hS := Graph.domain_reached hr files (options.entries current)
  have hm' : p.Reached files (options.entries current) m.path :=
    (hg.mem_keys_iff _).1 (Graph.mem_keys.2 ⟨m, hm, rfl⟩)
  have howners := Graph.buildEntries_owners hS (hids.separate hg.sound hg.mem_keys_iff) Graph.sound_empty
    Graph.covered_empty (fun e he => ⟨e, he, .refl⟩) (hc.nodup_names ho) (by simp [Graph.ownersOf, Graph.find?])
    hc.built hm' hleads
  rw [Graph.ownersOf_of_mem hS hg.sound hm] at howners
  simpa [Graph.ownersOf, Graph.find?] using howners

theorem Parts.map_chunks (hc : Parts options loaders files current p c) (ho : Resolver.Plain ⟨options.extensions⟩)
    (hids : (p.graph files (options.entries current)).Distinct) :
    (c.chunks.map fun chunk => (chunk.name, chunk.entry.path)) = options.entries current := by
  refine Eq.symm (List.forall₂_eq_eq_eq ▸ ?_)
  rw [List.forall₂_map_right_iff]
  refine forall₂_imp_of_mem (hc.forall₂_chunks ho hids) fun e he chunk hof => ?_
  rw [hof.name_eq, hof.entry_path, entries_normal options current he]

theorem map_name_filter {entries : List (String × Path)} {chunks : List Chunk} {leads : String × Path → Bool}
    {holds : Chunk → Bool} (h : entries.Forall₂ (fun e chunk => chunk.name = e.1 ∧ leads e = holds chunk) chunks) :
    (entries.filter leads).map (·.1) = (chunks.filter holds).map (·.name) := by
  induction h with
  | nil => rfl
  | cons hab _ ih =>
    obtain ⟨hname, heq⟩ := hab
    rw [List.filter_cons, List.filter_cons, heq]
    split
    · simp [ih, hname]
    · exact ih

/-- The owners of a module are the entries whose chunks hold it, in their order. -/
theorem owners_eq_chunks (options : Options) (loaders : Registry) (files : Files) (current : Path)
    (ho : Resolver.Plain ⟨options.extensions⟩) (p : Project) (hp : options.project loaders current = .ok p)
    (hids : (p.graph files (options.entries current)).Distinct) (c : Compilation)
    (h : (compile options loaders files current).result = .ok c) :
    (c.chunks.map fun chunk => (chunk.name, chunk.entry.path)) = options.entries current ∧
    ∀ m ∈ c.modules.modules,
      m.owners = (c.chunks.filter (·.contains m.id)).map (·.name) ∧
      ∀ chunk ∈ c.chunks, (chunk.name ∈ m.owners ↔ m ∈ chunk.modules) ∧
        (chunk.contains m.id ↔ m ∈ chunk.modules) ∧
        (m ∈ chunk.modules ↔ c.modules.Leads chunk.entry.id m.id) := by
  obtain ⟨p', hc⟩ := compile_ok h
  obtain rfl : p' = p := Except.ok.inj (hc.project.symm.trans hp)
  have hchunks := hc.forall₂_chunks ho hids
  have hpaths := hc.map_chunks ho hids
  refine ⟨hpaths, fun m hm => ?_⟩
  rw [hc.modules, Graph.modules_table hids] at hm
  have howners : m.owners = (c.chunks.filter (·.contains m.id)).map (·.name) := by
    rw [hc.owners_eq ho hids hm (fun e =>
      @decide (p'.Leads files e.2.normal m.path) (Classical.propDecidable _)) (by simp)]
    refine map_name_filter (hchunks.imp fun e chunk hof => ⟨hof.name_eq, ?_⟩)
    rw [Bool.eq_iff_iff, hof.contains_iff hids hm, hof.mem_iff]
    simp [hm]
  refine ⟨howners, fun chunk hchunk => ?_⟩
  obtain ⟨e, -, hof⟩ := exists_left_of_forall₂ hchunks hchunk
  refine ⟨?_, hof.contains_iff hids hm, hc.modules ▸ hof.leads_iff m hm⟩
  rw [howners, List.mem_map, ← hof.contains_iff hids hm]
  constructor
  · rintro ⟨k, hk, hname⟩
    obtain ⟨hkmem, hholds⟩ := List.mem_filter.1 hk
    have hnames : (c.chunks.map (·.name)).Nodup := by
      have hmap := congrArg (List.map Prod.fst) hpaths
      rw [List.map_map] at hmap
      exact hmap ▸ hc.nodup_names ho
    rwa [← List.inj_on_of_nodup_map hnames hkmem hchunk hname]
  · exact fun hholds => ⟨chunk, List.mem_filter.2 ⟨hchunk, hholds⟩, rfl⟩

theorem ring_distinct : (ringProject.graph ring (ringOptions.entries ⟨"/app"⟩)).Distinct := by
  obtain ⟨c, hc⟩ := ring_compiles
  obtain ⟨p, hparts⟩ := compile_ok hc
  obtain rfl : p = ringProject := Except.ok.inj (hparts.project.symm.trans ring_project)
  refine (hparts.complete ring_plain).sound.distinct fun a b ha hb => ?_
  have hdiffer : ∀ a ∈ [⟨"/app/main.js"⟩, ⟨"/app/lib.js"⟩, (⟨"/app/tool.js"⟩ : Path)],
      ∀ b ∈ [⟨"/app/main.js"⟩, ⟨"/app/lib.js"⟩, (⟨"/app/tool.js"⟩ : Path)],
        Path.idFrom ⟨"/app"⟩ a = Path.idFrom ⟨"/app"⟩ b → a = b := by decide +kernel
  exact hdiffer a (ring_reached ha) b (ring_reached hb)

theorem owners_eq_chunks_ring : ∃ c, (compile ringOptions ⟨[]⟩ ring ⟨"/app"⟩).result = .ok c ∧
    (c.chunks.map fun chunk => (chunk.name, chunk.entry.path)) =
      [("main", ⟨"/app/main.js"⟩), ("tool", ⟨"/app/tool.js"⟩)] ∧
    ∀ m ∈ c.modules.modules, m.owners = (c.chunks.filter (·.contains m.id)).map (·.name) := by
  obtain ⟨c, hc⟩ := ring_compiles
  obtain ⟨hchunks, howners⟩ := owners_eq_chunks ringOptions ⟨[]⟩ ring ⟨"/app"⟩ ring_plain ringProject ring_project
    ring_distinct c hc
  have hentries : ringOptions.entries ⟨"/app"⟩ = [("main", ⟨"/app/main.js"⟩), ("tool", ⟨"/app/tool.js"⟩)] := by
    decide +kernel
  exact ⟨c, hc, hentries ▸ hchunks, fun m hm => (howners m hm).1⟩

end Compilation
end Bundler
