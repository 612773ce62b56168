import Bundler.Proofs.Compilation.Linking
import Bundler.Proofs.Graph.Canonical
import Mathlib.Data.List.Dedup

/-!
# What an id stands for

The id of a file spells the way to it from the root, with backslashes written as slashes. Two files
whose ways hold no backslash have two ids. A name on Linux may hold a backslash; then a file can have the
id of another one, and the table of a graph, which has one row for an id, is without one of the two.
-/

namespace Bundler

namespace Path

instance (root p : Path) : Decidable (Clear root p) := inferInstanceAs (Decidable (¬ _))

theorem idFrom_eq_iff {root p q : Path} :
    idFrom root p = idFrom root q ↔
      trimHere (p.relative root).unix.toList = trimHere (q.relative root).unix.toList := by
  rw [← String.toList_inj, toList_idFrom, toList_idFrom]
  simp

end Path

namespace Graph

variable {p : Project} {g : Graph}

/-! ## The rows of a table -/

theorem mem_map_table {id : String} : id ∈ g.table.map (·.1) ↔ id ∈ g.modules.map (·.id) := by
  constructor
  · intro h
    obtain ⟨row, hrow, rfl⟩ := List.mem_map.1 h
    have hm : row.2 ∈ g.modules := mem_of_mem_table (List.mem_map.2 ⟨row, hrow, rfl⟩)
    exact List.mem_map.2 ⟨row.2, hm, (g.keyed_table.key_eq row hrow).symm⟩
  · intro h
    obtain ⟨m, hm, rfl⟩ := List.mem_map.1 h
    obtain ⟨k, hk⟩ := Option.isSome_iff_exists.1 (find?_table_isSome hm)
    exact List.mem_map.2 ⟨_, mem_of_lookup hk, rfl⟩

theorem length_table (g : Graph) : g.table.length = (g.modules.map (·.id)).dedup.length := by
  have hperm : (g.table.map (·.1)).Perm (g.modules.map (·.id)).dedup := by
    apply (List.perm_ext_iff_of_nodup g.keyed_table.nodup (List.nodup_dedup _)).2
    intro id
    rw [List.mem_dedup, mem_map_table]
  simpa using hperm.length_eq

theorem length_table_eq_iff : g.table.length = g.modules.length ↔ g.Distinct := by
  rw [length_table, Distinct, ← List.dedup_eq_self]
  constructor
  · intro h
    exact (List.dedup_sublist _).eq_of_length (by simpa using h)
  · intro h
    rw [h, List.length_map]

/-! ## The ids of a history -/

theorem Consistent.nodup_keys (hg : Consistent p g) : g.keys.Nodup := by
  apply hg.unique.imp
  rintro a b hab rfl
  exact hab (Path.same_self a)

theorem Consistent.distinct (hg : Consistent p g) (hroot : p.root.Canonical)
    (hkeys : ∀ q ∈ g.keys, q.Canonical ∧ Path.Clear p.root q) : g.Distinct := by
  rw [Distinct, hg.map_id]
  apply hg.nodup_keys.map_on
  intro a ha b hb hid
  exact Path.eq_of_idFrom_eq hroot (hkeys a ha).1 (hkeys b hb).1 (hkeys a ha).2 (hkeys b hb).2 hid

theorem clear_after (hroot : p.root.Canonical) {turns : List Turn} (hfiles : ∀ turn ∈ turns, turn.files.tree.Plain)
    {m : Module} (hm : m ∈ (after p turns).modules) (hpath : m.path.Canonical) : Path.Clear p.root m.path := by
  obtain ⟨earlier, turn, later, rfl, -, -, ⟨a, ha, -⟩, -⟩ := builtAt_after p turns hm
  exact Files.clear_of_isFile (hfiles turn (by simp)) hroot hpath (Project.analyse_ok ha).1

/-- Ids are the same only where the ways to the files are, once these are written with slashes. -/
theorem ids_tell_files_apart (p : Project) (hroot : p.root.isAbsolute) (hnormal : p.root.normal = p.root) :
    (∀ a b, a.isAbsolute → b.isAbsolute → a.normal = a → b.normal = b → Path.Clear p.root a → Path.Clear p.root b →
      a ≠ b → Path.idFrom p.root a ≠ Path.idFrom p.root b) ∧
    (∀ a b, Path.idFrom p.root a = Path.idFrom p.root b ↔
      Path.trimHere (a.relative p.root).unix.toList = Path.trimHere (b.relative p.root).unix.toList) ∧
    (∀ g : Graph, (g.table.length = g.modules.length ↔ g.Distinct) ∧
      ∀ id, g.table.find? id = g.modules.reverse.find? (·.id = id)) ∧
    ∀ turns, p.resolver.Plain → (∀ turn ∈ turns, ∀ q ∈ turn.request.paths, q.isAbsolute) →
      ((∀ turn ∈ turns, turn.files.tree.Plain) → ∀ m ∈ (after p turns).modules, Path.Clear p.root m.path) ∧
      ((∀ m ∈ (after p turns).modules, Path.Clear p.root m.path) →
        (after p turns).table = (after p turns).modules.map fun m => (m.id, m)) := by
  have hcanonical := Path.canonical_of_normal_eq hroot hnormal
  refine ⟨fun a b ha hb hanormal hbnormal haclear hbclear hne hid => hne ?_, fun a b => Path.idFrom_eq_iff,
    fun g => ⟨length_table_eq_iff, find?_table g⟩, fun turns hr hturns => ?_⟩
  · exact Path.eq_of_idFrom_eq hcanonical (Path.canonical_of_normal_eq ha hanormal)
      (Path.canonical_of_normal_eq hb hbnormal) haclear hbclear hid
  · have hpaths : ∀ m ∈ (after p turns).modules, m.path.Canonical := fun m hm =>
      canonical_after hr hroot hturns hm
    refine ⟨fun hfiles m hm => clear_after hcanonical hfiles hm (hpaths m hm), fun hclear => ?_⟩
    apply table_eq
    apply (consistent_after p turns).distinct hcanonical
    intro q hq
    obtain ⟨m, hm, rfl⟩ := mem_keys.1 hq
    exact ⟨hpaths m hm, hclear m hm⟩

open Compilation

theorem ids_tell_files_apart_ring :
    ringProject.root.isAbsolute ∧ ringProject.root.normal = ringProject.root ∧
    Path.idFrom ringProject.root ⟨"/lib.js"⟩ ≠ Path.idFrom ringProject.root ⟨"/app/lib.js"⟩ ∧
    (∃ m ∈ (after ringProject ringTurns).modules, m.path = ⟨"/app/main.js"⟩) ∧
    (after ringProject ringTurns).table = (after ringProject ringTurns).modules.map fun m => (m.id, m) := by
  have hroot : ringProject.root.isAbsolute := by decide
  have hnormal : ringProject.root.normal = ringProject.root := by decide +kernel
  obtain ⟨hids, -, -, hhistory⟩ := ids_tell_files_apart ringProject hroot hnormal
  have hturns : ∀ turn ∈ ringTurns, turn.files.tree.Plain := by
    intro turn hturn
    rw [List.mem_singleton.1 hturn]
    exact ring_names_plain
  obtain ⟨hclear, htable⟩ := hhistory ringTurns ring_plain (by decide +kernel)
  refine ⟨hroot, hnormal, ?_, ring_main_mem, htable (hclear hturns)⟩
  exact hids _ _ (by decide) (by decide) (by decide +kernel) (by decide +kernel) (by decide +kernel)
    (by decide +kernel) (by decide)

/-! ## An example: a name with a backslash -/

/-- A file in a folder, and one beside the folder whose name spells the way to the other. -/
def twins : Files where
  tree := .folder [("app", .folder [("a", .folder [("b.js", .file "1".toUTF8)]), ("a\\b.js", .file "2".toUTF8)])]

def innerTwin : Module where
  id := "./a/b.js"
  path := ⟨"/app/a/b.js"⟩
  transformed := "1"
  emitted := "1"
  owners := ["main"]

def outerTwin : Module where
  id := "./a/b.js"
  path := ⟨"/app/a\\b.js"⟩
  transformed := "2"
  emitted := "2"
  owners := ["main"]

def twinTurns : List Turn := [⟨twins, .one "main" innerTwin.path⟩, ⟨twins, .one "main" outerTwin.path⟩]

theorem after_twins :
    after ringProject twinTurns = ⟨[innerTwin, outerTwin], [("./a/b.js", outerTwin.path)]⟩ := by
  have hinner : (visit ringProject twins "main" {} innerTwin.path.normal).result =
      .ok (⟨[innerTwin], [("./a/b.js", innerTwin.path)]⟩, []) := by decide +kernel
  have houter : (visit ringProject twins "main" ⟨[innerTwin], [("./a/b.js", innerTwin.path)]⟩
      outerTwin.path.normal).result = .ok (⟨[innerTwin, outerTwin], [("./a/b.js", outerTwin.path)]⟩, []) := by
    decide +kernel
  have hfirst : (build ringProject twins {} "main" innerTwin.path).graph =
      ⟨[innerTwin], [("./a/b.js", innerTwin.path)]⟩ := by
    rw [build_graph, walk_of_visit hinner]
  change (build ringProject twins (build ringProject twins {} "main" innerTwin.path).graph "main" _).graph = _
  rw [hfirst, build_graph, walk_of_visit houter]

/-- Two files with one id: both have modules, and the table has the later one only. -/
theorem backslash_hides_a_file :
    innerTwin.path.isAbsolute ∧ innerTwin.path.normal = innerTwin.path ∧
    outerTwin.path.isAbsolute ∧ outerTwin.path.normal = outerTwin.path ∧ innerTwin.path ≠ outerTwin.path ∧
    Path.idFrom ringProject.root innerTwin.path = Path.idFrom ringProject.root outerTwin.path ∧
    (after ringProject twinTurns).modules = [innerTwin, outerTwin] ∧
    (after ringProject twinTurns).table = [("./a/b.js", outerTwin)] := by
  rw [after_twins]
  refine ⟨by decide, by decide +kernel, by decide, by decide +kernel, by decide, by decide +kernel, rfl, ?_⟩
  decide +kernel

end Graph
end Bundler
