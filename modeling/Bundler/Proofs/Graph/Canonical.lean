import Bundler.Proofs.Graph.Settled
import Bundler.Proofs.Writing

/-!
# One path for one file

However a file is come by, as an entry or through a specifier, it is known under one path: absolute, in
normal form, and the same for every way there. So a graph has one module for it.
-/

namespace Bundler

/-- Two paths lead to one file or folder. -/
def Files.Meet (files : Files) (p q : Path) : Prop :=
  ∃ place, files.locate p = .ok place ∧ files.locate q = .ok place

/-- How a build comes by a path: a specifier is resolved to it, or it is that of an entry. -/
inductive Path.Origin (files : Files) : Path → Prop where
  | specifier {r : Resolver} {base p : Path} {specifier : String} (hr : r.Plain) (hbase : base.isAbsolute)
      (h : r.resolve files base specifier = .ok p) : Origin files p
  | entry {root p : Path} {entry : Entry} {name : String} (hroot : root.isAbsolute)
      (h : (name, p) ∈ entry.files root) : Origin files p

variable {files : Files} {p q : Path}

theorem Files.Meet.normal_eq (h : files.Meet p q) (hp : p.isAbsolute) (hq : q.isAbsolute) : p.normal = q.normal := by
  obtain ⟨place, hlocate, hlocate'⟩ := h
  apply (Path.place_eq_iff hp hq).1
  rw [← Files.locate_eq_place hp hlocate, ← Files.locate_eq_place hq hlocate']

theorem Path.Canonical.eq_of_meet (hp : p.Canonical) (hq : q.Canonical) (h : files.Meet p q) : p = q := by
  have hnormal := h.normal_eq hp.isAbsolute hq.isAbsolute
  rwa [hp.normal.normal_eq, hq.normal.normal_eq] at hnormal

theorem Entry.canonical_files {entry : Entry} {root : Path} (hroot : root.isAbsolute) {name : String}
    (h : (name, p) ∈ entry.files root) : p.Canonical := by
  have hnormal : ∀ path, (root.child path).normal.Canonical := fun path =>
    ⟨Path.normal_normal _, by simpa using Path.isAbsolute_child hroot path⟩
  unfold files at h
  split at h
  · cases List.mem_singleton.1 h
    exact hnormal _
  · obtain ⟨row, -, hrow⟩ := List.mem_map.1 h
    cases hrow
    exact hnormal _

theorem Path.Origin.canonical (h : Origin files p) : p.Canonical := by
  cases h with
  | specifier hr hbase h =>
    have hit := Resolver.hit_of_resolve hr h
    exact ⟨hit.normal, hit.isAbsolute hbase⟩
  | entry hroot h => exact Entry.canonical_files hroot h

namespace Graph

variable {p : Project}

theorem canonical_of_asks (hr : p.resolver.Plain) (hroot : p.root.isAbsolute) (files : Files) (a b : Path)
    (ha : a.Canonical) (h : p.Asks files a b) : b.Canonical :=
  ⟨(h.hit hr).normal, h.isAbsolute hr hroot ha.isAbsolute⟩

theorem canonical_after (hr : p.resolver.Plain) (hroot : p.root.isAbsolute) {turns : List Turn}
    (hturns : ∀ turn ∈ turns, ∀ q ∈ turn.request.paths, q.isAbsolute) {m : Module}
    (hm : m ∈ (after p turns).modules) : m.path.Canonical := by
  have hamong : Among p Path.Canonical (after p turns) [] :=
    among_after (canonical_of_asks hr hroot) fun turn hturn q hq =>
      ⟨Path.normal_normal q, by simpa using hturns turn hturn q hq⟩
  exact hamong.keys _ (mem_keys.2 ⟨m, hm, rfl⟩)

/-- Two paths that a build comes by and that lead to one file are one path, with one id. -/
theorem one_path_for_a_file (files : Files) :
    (∀ (r : Resolver) (base : Path) (specifier : String) (q : Path), r.Plain → base.isAbsolute →
      r.resolve files base specifier = .ok q → q.isAbsolute ∧ files.isFile q ∧ q.normal = q) ∧
    (∀ a b, Path.Origin files a → Path.Origin files b → files.Meet a b →
      a = b ∧ ∀ root, Path.idFrom root a = Path.idFrom root b) ∧
    ∀ (p : Project) (turns : List Turn), p.resolver.Plain → p.root.isAbsolute →
      (∀ turn ∈ turns, ∀ q ∈ turn.request.paths, q.isAbsolute) →
      ∀ m ∈ (after p turns).modules, ∀ q, q.isAbsolute → files.Meet q m.path →
        (after p turns).find? q.normal = some m := by
  refine ⟨fun r base specifier q hr hbase h => ?_, fun a b ha hb hmeet => ?_,
    fun p turns hr hroot hturns m hm q hq hmeet => ?_⟩
  · have hit := Resolver.hit_of_resolve hr h
    exact ⟨hit.isAbsolute hbase, hit.isFile, hit.normal.normal_eq⟩
  · have heq : a = b := ha.canonical.eq_of_meet hb.canonical hmeet
    exact ⟨heq, fun root => by rw [heq]⟩
  · have hpath := canonical_after hr hroot hturns hm
    rw [hmeet.normal_eq hq hpath.isAbsolute, hpath.normal.normal_eq]
    exact (consistent_after p turns).find?_eq_some.2 ⟨hm, Path.same_self _⟩

/-! ## An example: a package whose main file is that of an entry -/

/-- A package that names a file outside its folder as its main file. -/
def store : Files where
  tree := .folder [("app", .folder [
    ("lib", .folder [("pad.js", .file "".toUTF8)]),
    ("node_modules", .folder [("left", .folder [
      ("package.json", .file "\x7b\"main\": \"../../lib/pad\"\x7d".toUTF8)])])])]

def pad : Module where
  id := "./lib/pad.js"
  path := ⟨"/app/lib/pad.js"⟩
  transformed := ""
  emitted := ""
  owners := ["main"]

/-- The file of the entry, asked for by a longer path. -/
def storeTurns : List Turn := [⟨store, .one "main" ⟨"/app/src/../lib/pad.js"⟩⟩]

theorem after_store : after Compilation.ringProject storeTurns = ⟨[pad], [(pad.id, pad.path)]⟩ := by
  have hnormal : Path.normal ⟨"/app/src/../lib/pad.js"⟩ = pad.path := by decide +kernel
  have hvisit : (visit Compilation.ringProject store "main" {} pad.path).result =
      .ok (⟨[pad], [(pad.id, pad.path)]⟩, []) := by decide +kernel
  change (build Compilation.ringProject store {} "main" _).graph = _
  rw [build_graph, hnormal, walk_of_visit hvisit]

theorem one_path_for_a_file_store :
    Resolver.Plain {} ∧
    (∃ a, Resolver.resolve {} store ⟨"/app/src/deep/.."⟩ "left" = .ok a ∧ a.isAbsolute ∧ store.isFile a ∧
      a.normal = a ∧ ∃ b, ("main", b) ∈ Entry.files ⟨"/app/"⟩ (.single "src/..//lib/pad.js") ∧ store.Meet a b ∧
      a = b ∧ Path.idFrom ⟨"/app"⟩ a = Path.idFrom ⟨"/app"⟩ b) ∧
    store.Meet ⟨"/app//lib/./pad.js"⟩ pad.path ∧
    (after Compilation.ringProject storeTurns).find? (Path.normal ⟨"/app//lib/./pad.js"⟩) = some pad := by
  obtain ⟨hresolve, horigin, hfind⟩ := one_path_for_a_file store
  have hplain : Resolver.Plain {} := Compilation.ring_plain
  have hfound : Resolver.resolve {} store ⟨"/app/src/deep/.."⟩ "left" = .ok pad.path := by
    have hsome : Resolver.resolve? {} store ⟨"/app/src/deep/.."⟩ "left" = some pad.path := by decide +kernel
    rw [Resolver.resolve, hsome]
  have hentry : ("main", pad.path) ∈ Entry.files ⟨"/app/"⟩ (.single "src/..//lib/pad.js") := by decide +kernel
  have hlocate : store.locate pad.path = .ok ["app", "lib", "pad.js"] := by decide +kernel
  have hmeet : store.Meet ⟨"/app//lib/./pad.js"⟩ pad.path := ⟨_, by decide +kernel, hlocate⟩
  obtain ⟨habsolute, hfile, hnormal⟩ := hresolve {} _ "left" _ hplain (by decide) hfound
  obtain ⟨heq, hids⟩ := horigin pad.path pad.path (.specifier hplain (by decide) hfound) (.entry (by decide) hentry)
    ⟨_, hlocate, hlocate⟩
  refine ⟨hplain, ⟨_, hfound, habsolute, hfile, hnormal, _, hentry, ⟨_, hlocate, hlocate⟩, heq, hids _⟩, hmeet, ?_⟩
  exact hfind Compilation.ringProject storeTurns hplain (by decide) (by decide) pad
    (by rw [after_store]; simp) _ (by decide) hmeet

end Graph
end Bundler
