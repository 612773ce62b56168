import Bundler.Proofs.Compilation.Result
import Bundler.Proofs.Graph.Owners

/-!
# The chunks of a compilation

Where the ids of a graph differ, the chunk of an entry holds the modules of the files that the entry
leads to.
-/

namespace Bundler

/-- The graph of all that entries lead to. -/
abbrev Project.graph (p : Project) (files : Files) (entries : List (String × Path)) : Graph :=
  (Graph.buildEntries p files {} entries).graph

/-- No two modules of a graph have one id. -/
abbrev Graph.Distinct (g : Graph) : Prop := (g.modules.map (·.id)).Nodup

/-- The chunk of an entry in a graph. -/
structure Chunk.OfEntry (p : Project) (files : Files) (g : Graph) (e : String × Path) (chunk : Chunk) : Prop where
  name_eq : chunk.name = e.1
  entry_mem : chunk.entry ∈ g.modules
  entry_path : chunk.entry.path = e.2.normal
  sublist : chunk.modules.Sublist g.modules
  mem_iff : ∀ m, m ∈ chunk.modules ↔ m ∈ g.modules ∧ p.Leads files e.2.normal m.path
  leads_iff : ∀ m ∈ g.modules, m ∈ chunk.modules ↔ g.table.Leads chunk.entry.id m.id

namespace Graph

variable {p : Project} {files : Files} {S : Path → Prop} {g : Graph}

theorem Distinct.separate (hids : g.Distinct) (hg : Sound p files S g) (hkeys : ∀ q, q ∈ g.keys ↔ S q) :
    Separate p S := by
  intro a b ha hb hab
  obtain ⟨m, hm, rfl⟩ := mem_keys.1 ((hkeys a).2 ha)
  obtain ⟨n, hn, rfl⟩ := mem_keys.1 ((hkeys b).2 hb)
  rw [← (hg.built m hm).id_eq, ← (hg.built n hn).id_eq] at hab
  rw [List.inj_on_of_nodup_map hids hm hn hab]

theorem Sound.distinct (hg : Sound p files S g) (hsep : Separate p S) : g.Distinct := by
  have hmap : g.modules.map (·.id) = g.keys.map (Path.idFrom p.root) := by
    rw [keys, List.map_map]
    exact List.map_congr_left fun m hm => (hg.built m hm).id_eq
  rw [Distinct, hmap]
  exact hg.nodup.map_on fun a ha b hb hab => hsep a b (hg.within a ha) (hg.within b hb) hab

theorem Distinct.find?_table (hids : g.Distinct) {id : String} {m : Module} :
    g.table.find? id = some m ↔ m ∈ g.modules ∧ m.id = id := by
  rw [g.keyed_table.find?_eq_some, modules_table hids]

theorem leads_table_iff (hids : g.Distinct) (hg : Sound p files S g) (hc : Covered p files g []) {m : Module}
    (hm : m ∈ g.modules) {x : String} :
    g.table.Leads m.id x ↔ ∃ q, p.Leads files m.path q ∧ Path.idFrom p.root q = x := by
  have hid : ∀ k ∈ g.modules, k.id = Path.idFrom p.root k.path := fun k hk => (hg.built k hk).id_eq
  constructor
  · intro h
    induction h with
    | refl => exact ⟨m.path, .refl, (hid m hm).symm⟩
    | tail _ hask ih =>
      obtain ⟨q, hlead, rfl⟩ := ih
      obtain ⟨k, hk, hdep⟩ := hask
      obtain ⟨hkmem, hkid⟩ := hids.find?_table.1 hk
      obtain ⟨n, hn, rfl⟩ := mem_keys.1 (hc.mem_keys_of_leads hlead (mem_keys.2 ⟨m, hm, rfl⟩))
      rw [← hid n hn] at hkid
      obtain rfl := List.inj_on_of_nodup_map hids hkmem hn hkid
      obtain ⟨b, hb, hbid⟩ := (hg.built k hkmem).mem_dependencies_iff.1 hdep
      exact ⟨b, hlead.tail hb, hbid⟩
  · rintro ⟨q, hlead, rfl⟩
    induction hlead with
    | refl =>
      rw [← hid m hm]
      exact .refl
    | tail hlead hask ih =>
      obtain ⟨k, hk, rfl⟩ := mem_keys.1 (hc.mem_keys_of_leads hlead (mem_keys.2 ⟨m, hm, rfl⟩))
      refine ih.tail ⟨k, hids.find?_table.2 ⟨hk, hid k hk⟩, ?_⟩
      exact (hg.built k hk).mem_dependencies_iff.2 ⟨_, hask, rfl⟩

theorem ofEntry_of_assemble (hids : g.Distinct) (hg : Sound p files S g) (hc : Covered p files g [])
    {e : String × Path} (he : e.2.normal ∈ g.keys) {chunk : Chunk}
    (h : Chunk.assemble g.table e.1 (Path.idFrom p.root e.2.normal) = .ok chunk) : chunk.OfEntry p files g e := by
  obtain ⟨hname, hentry, hsub, hmem⟩ := Chunk.assemble_ok g.keyed_table h
  rw [modules_table hids] at hsub
  simp only [modules_table hids] at hmem
  obtain ⟨hentrymem, hentryid⟩ := hids.find?_table.1 hentry
  obtain ⟨m, hm, hmpath⟩ := mem_keys.1 he
  have hmid : m.id = chunk.entry.id := by rw [(hg.built m hm).id_eq, hmpath, hentryid]
  obtain rfl : m = chunk.entry := List.inj_on_of_nodup_map hids hm hentrymem hmid
  have hleads : ∀ k ∈ g.modules, g.table.Leads chunk.entry.id k.id ↔ p.Leads files e.2.normal k.path := by
    intro k hk
    rw [leads_table_iff hids hg hc hm, hmpath]
    constructor
    -- An id of the graph stands for one file, so the way through ids ends at this one.
    · rintro ⟨q, hlead, hq⟩
      obtain ⟨n, hn, rfl⟩ := mem_keys.1 (hc.mem_keys_of_leads hlead he)
      rw [← (hg.built n hn).id_eq] at hq
      rwa [← List.inj_on_of_nodup_map hids hn hk hq]
    · exact fun hlead => ⟨k.path, hlead, (hg.built k hk).id_eq.symm⟩
  rw [← hentryid] at hmem
  refine ⟨hname, hm, hmpath, hsub, fun k => ?_, fun k hk => by simp [hmem, hk]⟩
  rw [hmem]
  exact and_congr_right fun hk => hleads k hk

/-- The graph of a build that ended well: all that its entries lead to. -/
structure Complete (p : Project) (files : Files) (entries : List (String × Path)) (g : Graph) : Prop where
  sound : Sound p files (p.Reached files entries) g
  covered : Covered p files g []
  mem_keys_iff : ∀ q, q ∈ g.keys ↔ p.Reached files entries q

theorem complete_of_ok (hr : p.resolver.Plain) {entries : List (String × Path)} {ids : List (String × String)}
    (h : (buildEntries p files {} entries).result = .ok ids) :
    ids = (entries.map fun e => (e.1, Path.idFrom p.root e.2.normal)) ∧
      Complete p files entries (p.graph files entries) := by
  rcases buildEntries_fresh hr files entries with ⟨hok, hsound, hcovered, hkeys⟩ | ⟨e, q, herr, -⟩
  · rw [hok] at h
    exact ⟨(Except.ok.inj h).symm, hsound, hcovered, hkeys⟩
  · rw [herr] at h
    cases h

end Graph

namespace Compilation

variable {options : Options} {loaders : Registry} {files : Files} {current : Path} {p : Project} {c : Compilation}

theorem Parts.plain (hc : Parts options loaders files current p c) (ho : Resolver.Plain ⟨options.extensions⟩) :
    p.resolver.Plain :=
  (project_ok hc.project).2 ▸ ho

theorem Parts.complete (hc : Parts options loaders files current p c) (ho : Resolver.Plain ⟨options.extensions⟩) :
    Graph.Complete p files (options.entries current) (p.graph files (options.entries current)) :=
  (Graph.complete_of_ok (hc.plain ho) hc.built).2

theorem Parts.forall₂_chunks (hc : Parts options loaders files current p c)
    (ho : Resolver.Plain ⟨options.extensions⟩) (hids : (p.graph files (options.entries current)).Distinct) :
    (options.entries current).Forall₂ (Chunk.OfEntry p files (p.graph files (options.entries current))) c.chunks := by
  obtain ⟨hentries, hg⟩ := Graph.complete_of_ok (hc.plain ho) hc.built
  have hchunks := hc.chunks
  rw [hentries, List.forall₂_map_left_iff, hc.modules] at hchunks
  refine forall₂_imp_of_mem hchunks fun e he chunk hchunk => ?_
  exact Graph.ofEntry_of_assemble hids hg.sound hg.covered ((hg.mem_keys_iff _).2 ⟨e, he, .refl⟩) hchunk

end Compilation
end Bundler
