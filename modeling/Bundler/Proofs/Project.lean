import Bundler.Project
import Bundler.Proofs.Pipeline
import Bundler.Proofs.Resolver

/-!
# What is found in a file

A file leads to the files that the specifiers in it are resolved to. Nothing that goes wrong with a
file is blamed on an unknown module.
-/

namespace Bundler

/-! ## Dependencies -/

theorem dependency_ok {files : Files} {r : Resolver} {root path : Path} {call : Require} {d : Dependency}
    (h : dependency files r root path call = .ok d) :
    d.specifier = call.specifier ∧
      r.resolve files (path.parent?.getD root) d.specifier = .ok d.path ∧ d.id = Path.idFrom root d.path := by
  unfold dependency at h
  obtain ⟨found, hfound, h⟩ := bind_eq_ok.1 h
  simp only [pure, Except.pure, Except.ok.injEq] at h
  simp [← h, hfound]

theorem extract_ok {files : Files} {r : Resolver} {root path : Path} {source : String} {x : Extraction}
    (h : extract files r root path source = .ok x) :
    ∃ s, scan path source = .ok s ∧
      s.requires.Forall₂ (fun call d => dependency files r root path call = .ok d) x.dependencies ∧
      Patch.splice? source (s.patches x.dependencies) = some x.text := by
  unfold extract at h
  obtain ⟨s, hs, h⟩ := bind_eq_ok.1 h
  obtain ⟨deps, hdeps, h⟩ := bind_eq_ok.1 h
  simp only [pure, Except.pure] at h
  split at h
  · next text htext =>
    cases h
    exact ⟨s, hs, mapM_eq_ok_iff.1 hdeps, htext⟩
  · cases h

namespace Project

variable {p : Project} {files : Files} {path : Path}

theorem load_isFile {text : String} (h : p.load files path = .ok text) : files.isFile path := by
  unfold load at h
  split at h
  · next source hread => exact Files.isFile_of_read hread
  · cases h

theorem examine_eq (text : String) : p.examine files path text =
    (if isJson path then wrapJson path text else .ok text) >>= fun transformed =>
      extract files p.resolver p.root path transformed >>= fun found =>
        pure ⟨transformed, found.text, found.dependencies⟩ := by
  unfold examine
  split <;> rfl

theorem examine_ok {text : String} {a : Analysis} (h : p.examine files path text = .ok a) :
    extract files p.resolver p.root path a.transformed = .ok ⟨a.emitted, a.dependencies⟩ := by
  rw [examine_eq] at h
  obtain ⟨transformed, -, h⟩ := bind_eq_ok.1 h
  obtain ⟨found, hfound, h⟩ := bind_eq_ok.1 h
  simp only [pure, Except.pure, Except.ok.injEq] at h
  simp [← h, hfound]

theorem analyse_ok {a : Analysis} (h : p.analyse files path = .ok a) :
    files.isFile path ∧ extract files p.resolver p.root path a.transformed = .ok ⟨a.emitted, a.dependencies⟩ := by
  obtain ⟨text, hload, h⟩ := bind_eq_ok.1 h
  exact ⟨load_isFile hload, examine_ok h⟩

theorem dependency_of_analyse {a : Analysis} (h : p.analyse files path = .ok a) {d : Dependency}
    (hd : d ∈ a.dependencies) :
    p.resolver.resolve files (path.parent?.getD p.root) d.specifier = .ok d.path ∧
      d.id = Path.idFrom p.root d.path := by
  obtain ⟨s, -, hdeps, -⟩ := extract_ok (analyse_ok h).2
  obtain ⟨call, -, hcall⟩ := exists_left_of_forall₂ hdeps hd
  exact (dependency_ok hcall).2

/-! ## What goes wrong -/

theorem load_ne_unknown {id : String} : p.load files path ≠ .error (.unknownModule id) := by
  intro h
  unfold load at h
  split at h
  · obtain ⟨name, causes, h⟩ := (Pipeline.apply_eq_error_iff.1 h).exists_transform
    cases h
  · cases h

theorem scan_ne_unknown {source : String} {id : String} : scan path source ≠ .error (.unknownModule id) := by
  intro h
  unfold scan at h
  split at h
  · cases h
  · unfold Script.Program.scan at h
    split at h <;> cases h

theorem dependency_ne_unknown {r : Resolver} {root : Path} {call : Require} {id : String} :
    dependency files r root path call ≠ .error (.unknownModule id) := by
  intro h
  unfold dependency at h
  rcases bind_eq_error.1 h with h | ⟨found, -, h⟩
  · unfold Resolver.resolve at h
    split at h <;> cases h
  · cases h

theorem extract_ne_unknown {r : Resolver} {root : Path} {source : String} {id : String} :
    extract files r root path source ≠ .error (.unknownModule id) := by
  intro h
  unfold extract at h
  rcases bind_eq_error.1 h with h | ⟨s, -, h⟩
  · exact scan_ne_unknown h
  · rcases bind_eq_error.1 h with h | ⟨deps, -, h⟩
    · obtain ⟨call, -, h⟩ := exists_of_mapM_eq_error h
      exact dependency_ne_unknown h
    · split at h <;> cases h

theorem analyse_ne_unknown {id : String} : p.analyse files path ≠ .error (.unknownModule id) := by
  intro h
  unfold analyse at h
  rcases bind_eq_error.1 h with h | ⟨text, -, h⟩
  · exact load_ne_unknown h
  · rw [examine_eq] at h
    rcases bind_eq_error.1 h with h | ⟨transformed, -, h⟩
    · split at h
      · unfold wrapJson at h
        simp only at h
        split at h <;> cases h
      · cases h
    · rcases bind_eq_error.1 h with h | ⟨found, -, h⟩
      · exact extract_ne_unknown h
      · cases h

end Project
end Bundler
