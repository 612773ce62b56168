import Bundler.Proofs.Compilation.Result

/-!
# What a compilation builds

A build of entries ends well exactly where all that they lead to can be built, and its graph then
holds these files and no others. A compilation never misses a module.
-/

namespace Bundler

/-! ## Lists that hold all that is reached -/

namespace Project

/-- Something can be found in every file of a list, and all that they ask for is in the list. -/
def closed (p : Project) (files : Files) (paths : List Path) : Bool :=
  paths.all fun path =>
    match p.analyse files path with
    | .ok a => a.dependencies.all fun d => paths.contains d.path
    | .error _ => false

variable {p : Project} {files : Files} {paths : List Path}

theorem exists_analyse_of_closed (h : p.closed files paths) {path : Path} (hpath : path ∈ paths) :
    ∃ a, p.analyse files path = .ok a ∧ ∀ d ∈ a.dependencies, d.path ∈ paths := by
  have hall := List.all_eq_true.1 h path hpath
  split at hall
  · next a ha => exact ⟨a, ha, by simpa using hall⟩
  · cases hall

theorem mem_of_reached (h : p.closed files paths) {entries : List (String × Path)}
    (hentries : ∀ e ∈ entries, e.2.normal ∈ paths) {q : Path} (hq : p.Reached files entries q) : q ∈ paths := by
  obtain ⟨e, he, hlead⟩ := hq
  induction hlead with
  | refl => exact hentries e he
  | tail _ hab ih =>
    obtain ⟨found, hfound, d, hd, rfl⟩ := hab
    obtain ⟨a, ha, hdeps⟩ := exists_analyse_of_closed h ih
    rw [ha] at hfound
    cases hfound
    exact hdeps d hd

end Project

/-! ## The graph of a build -/

namespace Graph

variable {p : Project} {files : Files} {entries : List (String × Path)}

theorem buildEntries_ok_iff (hr : p.resolver.Plain) :
    (∃ ids, (buildEntries p files {} entries).result = .ok ids) ↔
      ∀ q, p.Reached files entries q → ∃ a, p.analyse files q = .ok a := by
  rcases buildEntries_fresh hr files entries with ⟨hok, hsound, -, hkeys⟩ | ⟨e, q, herr, hq, ha⟩
  · refine ⟨fun _ q hq => ?_, fun _ => ⟨_, hok⟩⟩
    obtain ⟨m, hm, rfl⟩ := mem_keys.1 ((hkeys q).2 hq)
    obtain ⟨a, ha, -⟩ := hsound.built m hm
    exact ⟨a, ha⟩
  · constructor
    · rintro ⟨ids, hids⟩
      rw [herr] at hids
      cases hids
    · intro hall
      obtain ⟨a, ha'⟩ := hall q hq
      rw [ha] at ha'
      cases ha'

theorem Sound.pairwise {S : Path → Prop} {g : Graph} (hS : Domain p files S) (hg : Sound p files S g) :
    g.keys.Pairwise fun a b => ¬ a.same b := by
  refine hg.nodup.imp_of_mem ?_
  intro a b ha hb hne hsame
  exact hne ((hS.normal a (hg.within a ha)).eq_of_same (hS.normal b (hg.within b hb)) hsame)

end Graph

namespace Compilation

variable {options : Options} {loaders : Registry} {files : Files} {current : Path} {p : Project}

theorem exists_chunks (hr : p.resolver.Plain) {entries : List (String × Path)} {ids : List (String × String)}
    (h : (Graph.buildEntries p files {} entries).result = .ok ids) :
    ∃ chunks, (ids.mapM fun e => Chunk.assemble (Graph.buildEntries p files {} entries).graph.table e.1 e.2) =
      .ok chunks := by
  rcases Graph.buildEntries_fresh hr files entries with ⟨hok, hsound, hcovered, hkeys⟩ | ⟨e, q, herr, -⟩
  · rw [hok] at h
    cases h
    cases hchunks : (entries.map fun e => (e.1, Path.idFrom p.root e.2.normal)).mapM fun e =>
        Chunk.assemble (Graph.buildEntries p files {} entries).graph.table e.1 e.2 with
    | ok chunks => exact ⟨chunks, rfl⟩
    | error err =>
      obtain ⟨row, hrow, hfail⟩ := exists_of_mapM_eq_error hchunks
      obtain ⟨e, he, hid⟩ := List.mem_map.1 hrow
      obtain ⟨m, hm, hpath⟩ := Graph.mem_keys.1 ((hkeys e.2.normal).2 ⟨e, he, .refl⟩)
      obtain ⟨chunk, hchunk⟩ := Graph.exists_chunk hsound hcovered hm row.1
      have hrowid : m.id = row.2 := by rw [(hsound.built m hm).id_eq, hpath, ← hid]
      rw [hrowid, hfail] at hchunk
      cases hchunk
  · rw [herr] at h
    cases h

theorem compile_ne_unknown (ho : Resolver.Plain ⟨options.extensions⟩) (id : String) :
    (compile options loaders files current).result ≠ .error (.unknownModule id) := by
  rw [compile_result]
  split
  · nofun
  · intro h
    rcases bind_eq_error.1 h with h | ⟨p, hp, h⟩
    · obtain ⟨message, h⟩ := project_error h
      cases h
    have hr : p.resolver.Plain := (project_ok hp).2 ▸ ho
    rcases bind_eq_error.1 h with h | ⟨ids, hids, h⟩
    · rcases Graph.buildEntries_fresh hr files (options.entries current) with
        ⟨hok, -⟩ | ⟨e, q, herr, -, ha⟩
      · rw [hok] at h
        cases h
      · rw [herr] at h
        cases h
        exact Project.analyse_ne_unknown ha
    rcases bind_eq_error.1 h with h | ⟨chunks, -, h⟩
    · obtain ⟨chunks, hchunks⟩ := exists_chunks hr hids
      rw [hchunks] at h
      cases h
    rcases bind_eq_error.1 h with h | ⟨assets, -, h⟩
    · obtain ⟨message, h⟩ := renderAfter_error h
      cases h
    · cases h

theorem exists_compile (hp : options.project loaders current = .ok p) (hr : p.resolver.Plain)
    (hne : options.entries current ≠ [])
    (hall : ∀ q, p.Reached files (options.entries current) q → ∃ a, p.analyse files q = .ok a)
    (hnames : ((options.entries current).map fun e => options.output.filenameFor e.1).Nodup) :
    ∃ c, (compile options loaders files current).result = .ok c := by
  rcases Graph.buildEntries_fresh hr files (options.entries current) with
    ⟨hok, -⟩ | ⟨e, q, -, hq, ha⟩
  · obtain ⟨chunks, hchunks⟩ := exists_chunks hr hok
    have hnames' := map_name_chunks (Graph.keyed_table _) (mapM_eq_ok_iff.1 hchunks)
    have hfiles : chunks.map (fun chunk => options.output.filenameFor chunk.name) =
        (options.entries current).map fun e => options.output.filenameFor e.1 := by
      simpa [Function.comp_def] using congrArg (List.map options.output.filenameFor) hnames'
    have hrender : (renderAfter options.output [] chunks).result = .ok ([] ++ chunks.map (asset options.output)) :=
      renderAfter_of_nodup (by simpa [hfiles] using hnames)
    rw [compile_result, if_neg (by simpa using hne)]
    exact ⟨_, bind_eq_ok.2 ⟨p, hp, bind_eq_ok.2 ⟨_, hok, bind_eq_ok.2 ⟨chunks, hchunks,
      bind_eq_ok.2 ⟨_, hrender, rfl⟩⟩⟩⟩⟩
  · obtain ⟨a, ha'⟩ := hall q hq
    rw [ha] at ha'
    cases ha'

/-- A build of entries ends well exactly where something can be found in every file that they lead to. -/
theorem buildEntries_reached (p : Project) (files : Files) (entries : List (String × Path))
    (hr : p.resolver.Plain) (options : Options) (ho : Resolver.Plain ⟨options.extensions⟩) :
    ((∃ ids, (Graph.buildEntries p files {} entries).result = .ok ids) ↔
      ∀ q, p.Reached files entries q → ∃ a, p.analyse files q = .ok a) ∧
    (∀ ids, (Graph.buildEntries p files {} entries).result = .ok ids →
      (Graph.buildEntries p files {} entries).graph.keys.Pairwise (fun a b => ¬ a.same b) ∧
      ∀ q, q ∈ (Graph.buildEntries p files {} entries).graph.keys ↔ p.Reached files entries q) ∧
    ∀ loaders current id, (compile options loaders files current).result ≠ .error (.unknownModule id) := by
  refine ⟨Graph.buildEntries_ok_iff hr, fun ids hids => ?_, fun _ _ id => compile_ne_unknown ho id⟩
  rcases Graph.buildEntries_fresh hr files entries with ⟨-, hsound, -, hkeys⟩ | ⟨e, q, herr, -⟩
  · exact ⟨hsound.pairwise (Graph.domain_reached hr files entries), hkeys⟩
  · rw [herr] at hids
    cases hids

/-! ## An example: a ring -/

/-- Two files that ask for each other, and one that asks for one of them. -/
def ring : Files where
  tree := .folder [("app", .folder [
    ("main.js", .file "require('./lib')".toUTF8),
    ("lib.js", .file "require('./main.js')".toUTF8),
    ("tool.js", .file "require('./lib')".toUTF8)])]

def ringOptions : Options := { entry := .named [("main", "./main.js"), ("tool", "tool.js")] }

def ringProject : Project := { root := ⟨"/app"⟩ }

theorem ring_closed :
    ringProject.closed ring [⟨"/app/main.js"⟩, ⟨"/app/lib.js"⟩, ⟨"/app/tool.js"⟩] := by decide +kernel

theorem ring_plain : Resolver.Plain ⟨ringOptions.extensions⟩ := by
  unfold Resolver.Plain
  decide

theorem ring_reached {q : Path} (hq : ringProject.Reached ring (ringOptions.entries ⟨"/app"⟩) q) :
    q ∈ [⟨"/app/main.js"⟩, ⟨"/app/lib.js"⟩, (⟨"/app/tool.js"⟩ : Path)] :=
  Project.mem_of_reached ring_closed (by decide +kernel) hq

theorem buildEntries_reached_ring : Resolver.Plain ⟨ringOptions.extensions⟩ ∧
    (∃ ids, (Graph.buildEntries ringProject ring {} (ringOptions.entries ⟨"/app"⟩)).result = .ok ids) ∧
    (∀ q, q ∈ (Graph.buildEntries ringProject ring {} (ringOptions.entries ⟨"/app"⟩)).graph.keys ↔
      ringProject.Reached ring (ringOptions.entries ⟨"/app"⟩) q) ∧
    ∀ id, (compile ringOptions ⟨[]⟩ ring ⟨"/app"⟩).result ≠ .error (.unknownModule id) := by
  obtain ⟨hiff, hkeys, hknown⟩ := buildEntries_reached ringProject ring (ringOptions.entries ⟨"/app"⟩)
    ring_plain ringOptions ring_plain
  obtain ⟨ids, hids⟩ := hiff.2 fun q hq => by
    obtain ⟨a, ha, -⟩ := Project.exists_analyse_of_closed ring_closed (ring_reached hq)
    exact ⟨a, ha⟩
  exact ⟨ring_plain, ⟨ids, hids⟩, (hkeys ids hids).2, hknown ⟨[]⟩ ⟨"/app"⟩⟩

theorem ring_project : ringOptions.project ⟨[]⟩ ⟨"/app"⟩ = .ok ringProject := by
  have hroot : ringOptions.root ⟨"/app"⟩ = ⟨"/app"⟩ := by decide +kernel
  rw [Options.project, hroot]
  rfl

theorem ring_compiles : ∃ c, (compile ringOptions ⟨[]⟩ ring ⟨"/app"⟩).result = .ok c := by
  refine exists_compile ring_project ring_plain (by decide +kernel) (fun q hq => ?_) (by decide +kernel)
  obtain ⟨a, ha, -⟩ := Project.exists_analyse_of_closed ring_closed (ring_reached hq)
  exact ⟨a, ha⟩

end Compilation
end Bundler
