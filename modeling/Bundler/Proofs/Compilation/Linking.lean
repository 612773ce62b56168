import Bundler.Proofs.Compilation.Owners
import Bundler.Proofs.Literal
import Bundler.Proofs.Loading.Once
import Bundler.Proofs.Patch
import Bundler.Proofs.Path.Ids
import Mathlib.Data.List.Perm.Basic

/-!
# Linking

In the script of a chunk every literal that a module asks by, and the one that the script starts with,
is the key of one row of its table: that of the file that the specifier was resolved to. When the script
runs, this module answers.
-/

namespace Bundler

/-- No name on the way to a file holds a backslash. -/
def Node.Plain (node : Node) : Prop :=
  ∀ place bytes, node.find? place = some (.file bytes) → ∀ name ∈ place, '\\' ∉ name.toList

theorem Node.plain_file (bytes : ByteArray) : Plain (.file bytes) := by
  intro place bytes' h
  cases place with
  | nil => simp
  | cons name names => cases h

theorem Node.plain_folder {children : List (String × Node)}
    (h : ∀ row ∈ children, '\\' ∉ row.1.toList ∧ row.2.Plain) : Plain (.folder children) := by
  intro place bytes hfound
  cases place with
  | nil => cases hfound
  | cons name names =>
    obtain ⟨child, hchild, hfound⟩ := Option.bind_eq_some_iff.1 hfound
    obtain ⟨hname, hplain⟩ := h _ (mem_of_lookup hchild)
    exact List.forall_mem_cons.2 ⟨hname, hplain names bytes hfound⟩

/-! ## Ids of files -/

theorem Files.clear_of_isFile {files : Files} (hf : files.tree.Plain) {root q : Path} (hroot : root.Canonical)
    (hq : q.Canonical) (h : files.isFile q) : Path.Clear root q := by
  obtain ⟨body, hnames, rfl⟩ := hq.normal.names hq.isAbsolute
  obtain ⟨bytes, hfound⟩ := Files.find?_of_isFile hnames h
  refine Path.clear_ofBody hroot fun piece hp => ⟨hnames piece hp, ?_⟩
  simpa using hf _ bytes hfound (String.ofList piece) (List.mem_map_of_mem hp)

theorem Options.isAbsolute_root (options : Options) {current : Path} (h : current.isAbsolute) :
    (options.root current).isAbsolute := by
  unfold root
  split
  · rw [Path.isAbsolute_normal]
    exact Path.isAbsolute_join h _
  · rwa [Path.isAbsolute_normal]

theorem Options.normal_root (options : Options) (current : Path) : (options.root current).Normal := by
  unfold root
  split <;> exact Path.normal_normal _

theorem Options.isAbsolute_entries (options : Options) {current : Path} (h : current.isAbsolute)
    {e : String × Path} (he : e ∈ options.entries current) : e.2.isAbsolute := by
  rw [options.entries_eq] at he
  obtain ⟨pair, -, rfl⟩ := List.mem_map.1 he
  rw [locate, Path.isAbsolute_normal]
  exact Path.isAbsolute_child (options.isAbsolute_root h) _

theorem Project.Reached.isAbsolute {p : Project} {files : Files} (hr : p.resolver.Plain) (hroot : p.root.isAbsolute)
    {entries : List (String × Path)} (hentries : ∀ e ∈ entries, e.2.isAbsolute) {q : Path}
    (hq : p.Reached files entries q) : q.isAbsolute := by
  obtain ⟨e, he, hlead⟩ := hq
  induction hlead with
  | refl =>
    rw [Path.isAbsolute_normal]
    exact hentries e he
  | tail _ hask ih => exact hask.isAbsolute hr hroot ih

namespace Compilation

variable {options : Options} {loaders : Registry} {files : Files} {current : Path} {p : Project} {c : Compilation}

theorem Parts.distinct (hc : Parts options loaders files current p c) (ho : Resolver.Plain ⟨options.extensions⟩)
    (hcurrent : current.isAbsolute) (hf : files.tree.Plain) :
    (p.graph files (options.entries current)).Distinct := by
  have hg := hc.complete ho
  have hr := hc.plain ho
  have hroot : p.root.Canonical := by
    rw [(project_ok hc.project).1]
    exact ⟨options.normal_root current, options.isAbsolute_root hcurrent⟩
  have hclear : ∀ q, p.Reached files (options.entries current) q → q.Canonical ∧ Path.Clear p.root q := by
    intro q hq
    obtain ⟨m, hm, rfl⟩ := Graph.mem_keys.1 ((hg.mem_keys_iff q).2 hq)
    obtain ⟨a, ha, -⟩ := hg.sound.built m hm
    have hpath : m.path.Canonical := ⟨(Graph.domain_reached hr files _).normal _ hq,
      hq.isAbsolute hr hroot.isAbsolute fun e he => options.isAbsolute_entries hcurrent he⟩
    exact ⟨hpath, Files.clear_of_isFile hf hroot hpath (Project.analyse_ok ha).1⟩
  refine hg.sound.distinct fun a b ha hb hid => ?_
  exact Path.eq_of_idFrom_eq hroot (hclear a ha).1 (hclear b hb).1 (hclear a ha).2 (hclear b hb).2 hid

end Compilation

/-! ## The table of a script -/

namespace Bundle

/-- A row of the table: a literal, and the body of the factory that stands under it. -/
structure Row where
  key : String
  body : String

def Row.text (row : Row) : String :=
  "    " ++ row.key ++ ": (function (module, exports, __rpack_require__) \x7b\n" ++ row.body ++ "    \x7d),\n"

/-- A script with a table of rows that starts by a call with a literal. -/
def written (name : String) (rows : List Row) (call : String) : String :=
  "// rpack bundle: " ++ name ++ "\n" ++
    "(() => \x7b\n" ++
    "  var __rpack_modules__ = \x7b\n" ++
    String.join (rows.map Row.text) ++
    "  \x7d;\n\n" ++
    "  var __rpack_module_cache__ = \x7b\x7d;\n\n" ++
    Loading.writeFunction "__rpack_require__" "moduleId" Loading.body ++
    "\n  (() => \x7b\n" ++
    "    __rpack_require__(" ++ call ++ ");\n" ++
    "  \x7d)();\n" ++
    "\x7d)();\n"

end Bundle

/-! ## What the loader finds -/

namespace Loading.Setting

/-- No object has something under the id of a file without having been given it. -/
def Clear (s : Setting) : Prop := ∀ name ∈ s.names, ¬ ['.', '/'] <+: name.toList

variable {s : Setting} {k : Module}

end Loading.Setting

/-! ## Rows and the modules they are for -/

namespace Compilation

theorem ring_names_plain : ring.tree.Plain := by
  refine Node.plain_folder fun row hrow => ?_
  rw [List.mem_singleton.1 hrow]
  refine ⟨by decide, Node.plain_folder fun row hrow => ?_⟩
  simp only [List.mem_cons, List.not_mem_nil, or_false] at hrow
  rcases hrow with rfl | rfl | rfl <;> exact ⟨by decide, Node.plain_file _⟩

end Compilation
end Bundler
