import Bundler.Compilation
import Bundler.Proofs.Chunk
import Bundler.Proofs.Graph.Reach

/-!
# What a compilation is made of

A compilation builds a graph, cuts a chunk for each entry out of its table, and writes a script for
each chunk. Its result is the result of these parts in a row.
-/

namespace Bundler

/-! ## The table of a graph -/

namespace Graph

theorem keyed_foldl (ms : List Module) {table : Table} (hk : table.Keyed) :
    Table.Keyed (ms.foldl (fun table m => upsert m.id m table) table) := by
  induction ms generalizing table with
  | nil => exact hk
  | cons m ms ih =>
    refine ih ⟨nodup_keys_upsert m.id m hk.nodup, fun row hrow => ?_⟩
    rcases mem_of_mem_upsert hrow with rfl | hrow
    · rfl
    · exact hk.key_eq row hrow

theorem keyed_table (g : Graph) : g.table.Keyed := by
  have hempty : Table.Keyed [] := ⟨by simp, by simp⟩
  exact keyed_foldl g.modules hempty

theorem mem_foldl (ms : List Module) {table : Table} {row : String × Module}
    (h : row ∈ ms.foldl (fun table m => upsert m.id m table) table) : row ∈ table ∨ row.2 ∈ ms := by
  induction ms generalizing table with
  | nil => exact .inl h
  | cons m ms ih =>
    rcases ih h with h | h
    · rcases mem_of_mem_upsert h with rfl | h
      · exact .inr (by simp)
      · exact .inl h
    · exact .inr (by simp [h])

theorem mem_of_mem_table {g : Graph} {m : Module} (h : m ∈ g.table.modules) : m ∈ g.modules := by
  obtain ⟨row, hrow, rfl⟩ := List.mem_map.1 h
  simpa using mem_foldl g.modules hrow

theorem find?_foldl (ms : List Module) (table : Table) (id : String) :
    Table.find? (ms.foldl (fun table m => upsert m.id m table) table) id =
      (ms.reverse.find? (·.id = id)).or (table.find? id) := by
  induction ms generalizing table with
  | nil => rfl
  | cons m ms ih =>
    rw [List.foldl_cons, ih, Table.find?, lookup_upsert, List.reverse_cons, List.find?_append, Option.or_assoc]
    by_cases hid : m.id = id
    · simp [hid]
    · simp [hid, Ne.symm hid, Table.find?]

/-- Of the modules with one id, the last is in the table. -/
theorem find?_table (g : Graph) (id : String) : g.table.find? id = g.modules.reverse.find? (·.id = id) := by
  rw [table, find?_foldl]
  exact Option.or_none

theorem find?_table_isSome {g : Graph} {m : Module} (h : m ∈ g.modules) : (g.table.find? m.id).isSome := by
  rw [find?_table, List.find?_isSome]
  exact ⟨m, by simpa using h, by simp⟩

theorem foldl_of_nodup (ms : List Module) {table : Table} (h : (table.map (·.1) ++ ms.map (·.id)).Nodup) :
    ms.foldl (fun table m => upsert m.id m table) table = table ++ ms.map fun m => (m.id, m) := by
  induction ms generalizing table with
  | nil => simp
  | cons m ms ih =>
    have hnew : m.id ∉ table.map (·.1) := fun hm =>
      (List.nodup_append.1 h).2.2 m.id hm m.id (by simp) rfl
    rw [List.foldl_cons, upsert_of_not_mem m hnew, ih (by simpa using h)]
    simp

theorem table_eq {g : Graph} (h : (g.modules.map (·.id)).Nodup) : g.table = g.modules.map fun m => (m.id, m) := by
  rw [table, foldl_of_nodup g.modules (by simpa using h), List.nil_append]

theorem modules_table {g : Graph} (h : (g.modules.map (·.id)).Nodup) : g.table.modules = g.modules := by
  rw [table_eq h, Table.modules, List.map_map]
  exact List.map_id _

end Graph

/-! ## Scripts -/

namespace Compilation

/-- The script of a chunk, under the file it goes to. -/
def asset (output : Output) (chunk : Chunk) : String × String :=
  (output.filenameFor chunk.name, Bundle.script chunk)

theorem result_timed {α : Type} (work : String) (t : Trace Event α) : (timed work t).result = t.result := rfl

theorem renderAfter_cons (output : Output) (assets : List (String × String)) (chunk : Chunk)
    (rest : List Chunk) : (renderAfter output assets (chunk :: rest)).result =
      if (assets.lookup (output.filenameFor chunk.name)).isSome then
        .error (.config (s!"Multiple chunks emit assets to the same filename '{output.filenameFor chunk.name}'; " ++
          "add [name] to output.filename"))
      else (renderAfter output (assets ++ [asset output chunk]) rest).result := by
  rw [renderAfter]
  split
  · rfl
  · rw [Trace.result_bind, result_timed]
    rfl

theorem lookup_isSome_iff_mem {assets : List (String × String)} {file : String} :
    (assets.lookup file).isSome ↔ file ∈ assets.map (·.1) := by
  rw [List.lookup_isSome_iff, List.mem_map]
  constructor
  · rintro ⟨row, hrow, hkey⟩
    exact ⟨row, hrow, by simpa using (beq_iff_eq.1 hkey).symm⟩
  · rintro ⟨row, hrow, rfl⟩
    exact ⟨row, hrow, by simp⟩

theorem renderAfter_ok {output : Output} {assets out : List (String × String)} {chunks : List Chunk}
    (h : (renderAfter output assets chunks).result = .ok out) (hfiles : (assets.map (·.1)).Nodup) :
    out = assets ++ chunks.map (asset output) ∧ (out.map (·.1)).Nodup := by
  induction chunks generalizing assets with
  | nil =>
    cases h
    exact ⟨by simp, hfiles⟩
  | cons chunk rest ih =>
    rw [renderAfter_cons] at h
    split at h
    · cases h
    · next hnew =>
      rw [lookup_isSome_iff_mem] at hnew
      have hmore : ((assets ++ [asset output chunk]).map (·.1)).Nodup := by
        rw [List.map_append, List.map_singleton, ← List.concat_eq_append]
        exact List.Nodup.concat hnew hfiles
      obtain ⟨rfl, hout⟩ := ih h hmore
      exact ⟨by simp, hout⟩

theorem renderAfter_error {output : Output} {assets : List (String × String)} {chunks : List Chunk} {e : Error}
    (h : (renderAfter output assets chunks).result = .error e) : ∃ message, e = .config message := by
  induction chunks generalizing assets with
  | nil => cases h
  | cons chunk rest ih =>
    rw [renderAfter_cons] at h
    split at h
    · cases h
      exact ⟨_, rfl⟩
    · exact ih h

theorem renderAfter_of_nodup {output : Output} {assets : List (String × String)} {chunks : List Chunk}
    (h : (assets.map (·.1) ++ chunks.map fun chunk => output.filenameFor chunk.name).Nodup) :
    (renderAfter output assets chunks).result = .ok (assets ++ chunks.map (asset output)) := by
  induction chunks generalizing assets with
  | nil => simp [renderAfter]
  | cons chunk rest ih =>
    have hnew : output.filenameFor chunk.name ∉ assets.map (·.1) := fun hmem =>
      (List.nodup_append.1 h).2.2 _ hmem (output.filenameFor chunk.name) (by simp) rfl
    rw [renderAfter_cons, if_neg (mt lookup_isSome_iff_mem.1 hnew), ih (by simpa [asset] using h)]
    simp

/-! ## The parts of a compilation -/

theorem result_assemble (table : Table) (name id : String) :
    (assemble table name id).result = Chunk.assemble table name id := by
  unfold assemble
  rw [Trace.result_bind, Trace.result_ofExcept]
  cases Chunk.assemble table name id <;> rfl

end Compilation

/-- What the files of a build are read with. -/
def Options.project (options : Options) (loaders : Registry) (current : Path) : Except Error Project :=
  Pipeline.ofRules loaders options.rules >>= fun pipeline =>
    .ok { root := options.root current, resolver := ⟨options.extensions⟩, pipeline := pipeline }

/-- The entries of a build, taken from its root. -/
def Options.entries (options : Options) (current : Path) : List (String × Path) :=
  options.entry.files (options.root current)

/-- The entries with their names, as they are declared. -/
def Entry.pairs : Entry → List (String × String)
  | single path => [(defaultName, path)]
  | named paths => paths

/-- An entry with its file, seen from the working folder. -/
def Options.locate (options : Options) (current : Path) (e : String × String) : String × Path :=
  (e.1, ((options.root current).child e.2).normal)

theorem Options.entries_eq (options : Options) (current : Path) :
    options.entries current = options.entry.pairs.map (options.locate current) := by
  unfold entries Entry.files Entry.pairs
  cases options.entry <;> rfl

namespace Compilation

variable {options : Options} {loaders : Registry} {files : Files} {current : Path} {p : Project}

theorem compile_result (options : Options) (loaders : Registry) (files : Files) (current : Path) :
    (compile options loaders files current).result =
      if (options.entries current).isEmpty then .error (.config "No entry configured")
      else options.project loaders current >>= fun p =>
        (Graph.buildEntries p files {} (options.entries current)).result >>= fun ids =>
          (ids.mapM fun e => Chunk.assemble
              (Graph.buildEntries p files {} (options.entries current)).graph.table e.1 e.2) >>= fun chunks =>
            (render options.output chunks).result >>= fun assets =>
              .ok { entries := ids
                    modules := (Graph.buildEntries p files {} (options.entries current)).graph.table
                    chunks := chunks
                    assets := assets } := by
  unfold compile
  rw [result_timed]
  unfold Options.entries Options.project
  by_cases hempty : (options.entry.files (options.root current)).isEmpty
  · simp only [hempty, if_true, Trace.result_fail]
  · simp only [hempty, Bool.false_eq_true, if_false, Trace.result_bind, Trace.result_ofExcept, Trace.result_mapM,
      result_assemble, Trace.result_pure, bind_assoc]
    rfl

theorem map_name_chunks {table : Table} (hk : table.Keyed) {ids : List (String × String)} {chunks : List Chunk}
    (h : ids.Forall₂ (fun e chunk => Chunk.assemble table e.1 e.2 = .ok chunk) chunks) :
    chunks.map (·.name) = ids.map (·.1) := by
  induction h with
  | nil => rfl
  | cons hchunk _ ih => simp [ih, (Chunk.assemble_ok hk hchunk).1]

/-- The parts that a finished compilation was put together from. -/
structure Parts (options : Options) (loaders : Registry) (files : Files) (current : Path) (p : Project)
    (c : Compilation) : Prop where
  nonempty : options.entries current ≠ []
  project : options.project loaders current = .ok p
  built : (Graph.buildEntries p files {} (options.entries current)).result = .ok c.entries
  modules : c.modules = (Graph.buildEntries p files {} (options.entries current)).graph.table
  chunks : c.entries.Forall₂ (fun e chunk => Chunk.assemble c.modules e.1 e.2 = .ok chunk) c.chunks
  assets : c.assets = c.chunks.map (asset options.output)
  files : (c.assets.map (·.1)).Nodup

theorem compile_ok {c : Compilation} (h : (compile options loaders files current).result = .ok c) :
    ∃ p, Parts options loaders files current p c := by
  rw [compile_result] at h
  split at h
  · cases h
  · next hempty =>
    obtain ⟨p, hp, h⟩ := bind_eq_ok.1 h
    obtain ⟨ids, hids, h⟩ := bind_eq_ok.1 h
    obtain ⟨chunks, hchunks, h⟩ := bind_eq_ok.1 h
    obtain ⟨assets, hassets, h⟩ := bind_eq_ok.1 h
    cases h
    obtain ⟨hwritten, hfiles⟩ := renderAfter_ok hassets (by simp)
    exact ⟨p, by simpa using hempty, hp, hids, rfl, mapM_eq_ok_iff.1 hchunks, by simpa using hwritten, hfiles⟩

theorem Parts.asset?_eq {c : Compilation} (hc : Parts options loaders files current p c) {chunk : Chunk}
    (h : chunk ∈ c.chunks) :
    c.asset? (options.output.filenameFor chunk.name) = some (Bundle.script chunk) :=
  lookup_of_mem hc.files (hc.assets ▸ List.mem_map.2 ⟨chunk, h, rfl⟩ : asset options.output chunk ∈ c.assets)

theorem project_ok (h : options.project loaders current = .ok p) :
    p.root = options.root current ∧ p.resolver = ⟨options.extensions⟩ := by
  obtain ⟨pipeline, -, h⟩ := bind_eq_ok.1 h
  cases h
  exact ⟨rfl, rfl⟩

theorem project_error {e : Error} (h : options.project loaders current = .error e) :
    ∃ message, e = .config message := by
  rcases bind_eq_error.1 h with h | ⟨pipeline, -, h⟩
  · obtain ⟨before, rule, after, -, -, hfault⟩ := Pipeline.ofRules_eq_error_iff.1 h
    exact hfault.exists_config
  · cases h

end Compilation

/-- In a graph that holds all its files ask for, every module has a chunk, also where ids meet. -/
theorem Graph.exists_chunk {p : Project} {files : Files} {S : Path → Prop} {g : Graph}
    (hg : Sound p files S g) (hc : Covered p files g []) {m : Module} (hm : m ∈ g.modules) (name : String) :
    ∃ chunk, Chunk.assemble g.table name m.id = .ok chunk := by
  cases h : Chunk.assemble g.table name m.id with
  | ok chunk => exact ⟨chunk, rfl⟩
  | error e =>
    obtain ⟨x, hnone, -, hx⟩ := Chunk.assemble_error g.keyed_table h
    suffices ∃ k ∈ g.modules, k.id = x by
      obtain ⟨k, hk, rfl⟩ := this
      simpa [hnone] using find?_table_isSome hk
    rcases hx with rfl | ⟨a, -, n, hn, hdep⟩
    · exact ⟨m, hm, rfl⟩
    · have hnmem : n ∈ g.modules := mem_of_mem_table (g.keyed_table.find?_eq_some.1 hn).1
      obtain ⟨q, hq, rfl⟩ := (hg.built n hnmem).mem_dependencies_iff.1 hdep
      have hkey : q ∈ g.keys := by simpa using hc n.path (mem_keys.2 ⟨n, hnmem, rfl⟩) q hq
      obtain ⟨k, hk, rfl⟩ := mem_keys.1 hkey
      exact ⟨k, hk, (hg.built k hk).id_eq⟩

end Bundler
