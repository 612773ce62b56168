import Bundler.Proofs.Path.Ancestors
import Bundler.Resolver
import Mathlib.Data.Option.Basic

/-!
# The order of looking

A specifier is resolved to the first file in a list of paths that is fixed beforehand: it depends on
which folders there are and on what packages name as their main files, not on which files are found.
-/

namespace Bundler.Resolver

variable (r : Resolver) (files : Files)

/-- A path, and behind it the path with each ending put to its text. -/
def tries (p : Path) : List Path := [p] ++ r.extensions.map fun ending => ⟨p.text ++ ending⟩

/-- What is tried for a path, then what is tried for its index if it is a folder. -/
def places (p : Path) : List Path :=
  r.tries p ++ if files.isFolder p then r.tries (p.child "index") else []

/-- What the `package.json` of a folder names under `main`: nothing if it cannot be read, or does not read as a
record with a text there. -/
def mainFile (folder : Path) : Option String :=
  match files.read (folder.child "package.json") with
  | .error _ => none
  | .ok source =>
    let manifest := Json.Reader.record "manifest"
      [{ name := "main", read := do return Function.const _ (← .option (.text "a string")) }] none
    match Json.Reader.run manifest source with
    | .error _ => none
    | .ok main => main

/-- Where the file of a package is looked for: at its main file, if it names one, then at its index. -/
def packagePlaces (main : Option String) (folder : Path) : List Path :=
  (match main with
    | some main => r.places files (folder.child main).normal
    | none => []) ++ r.tries (folder.child "index")

/-- Where a module is looked for in the `node_modules` of a folder, for what packages name as their
main files. -/
def modulePlaces (main? : Path → Option String) (specifier : String) (folder : Path) : List Path :=
  let target := ((folder.child "node_modules").child specifier).normal
  r.tries target ++ if files.isFolder target then r.packagePlaces files (main? target) target else []

/-- Where a specifier is looked for, seen from a folder with the folders above it. -/
def candidates (main? : Path → Option String) (base : Path) (folders : List Path) (specifier : String) : List Path :=
  if specifier.toList.head? = some '.' ∨ Path.isAbsolute ⟨specifier⟩ then r.places files (base.child specifier).normal
  else
    (folders.filter fun folder => files.isFolder (folder.child "node_modules")).flatMap
      (r.modulePlaces files main? specifier)

/-- Main files that leave out only what leads to no file. -/
def Spares (main? : Path → Option String) : Prop :=
  ∀ target, main? target = mainFile files target ∨
    main? target = none ∧ ∀ main, mainFile files target = some main →
      ∀ p ∈ r.places files (target.child main).normal, files.isFile p = false

variable {r files} {main? : Path → Option String}

theorem find?_tries (p : Path) : (r.tries p).find? files.isFile = r.probe files p := rfl

theorem mainFile_eq (folder : Path) : mainFile files folder = packageMain files folder := by
  unfold mainFile packageMain
  cases files.read (folder.child "package.json") with
  | error e => rfl
  | ok source =>
    simp only [Except.toOption, Option.bind_some, manifestMain?]
    generalize Json.Reader.run _ source = answer
    cases answer <;> rfl

theorem find?_append_ite {a b : List Path} {found : Path → Bool} (here : Bool) :
    (a ++ if here then b else []).find? found = (a.find? found <|> if here then b.find? found else none) := by
  rw [List.find?_append]
  cases here <;> cases a.find? found <;> rfl

theorem find?_places (p : Path) : (r.places files p).find? files.isFile = r.place files p := by
  rw [places, find?_append_ite, find?_tries, find?_tries, place]

theorem find?_packagePlaces (main : Option String) (folder : Path) :
    (r.packagePlaces files main folder).find? files.isFile =
      ((main.bind fun main => r.place files (folder.child main).normal) <|> r.probe files (folder.child "index")) := by
  unfold packagePlaces
  rw [List.find?_append]
  cases main with
  | none => rfl
  | some main =>
    simp only [find?_places, Option.bind_some]
    cases r.place files (folder.child main).normal <;> rfl

theorem Spares.find?_package (h : r.Spares files main?) (target : Path) :
    (r.packagePlaces files (main? target) target).find? files.isFile = r.package files target := by
  rw [find?_packagePlaces]
  rcases h target with heq | ⟨hnone, hnowhere⟩
  · rw [heq, mainFile_eq]
    rfl
  · simp only [mainFile_eq] at hnowhere
    unfold package
    cases hmain : packageMain files target with
    | none => rw [hnone]; rfl
    | some main =>
      have hplace : r.place files (target.child main).normal = none := by
        rw [← find?_places, List.find?_eq_none]
        exact fun p hp => by simp [hnowhere main hmain p hp]
      rw [hnone]
      simp [hplace]

theorem Spares.find?_modulePlaces (h : r.Spares files main?) (specifier : String) {folder : Path}
    (hfolder : files.isFolder (folder.child "node_modules") = true) :
    (r.modulePlaces files main? specifier folder).find? files.isFile = r.inModules files specifier folder := by
  rw [modulePlaces, find?_append_ite, h.find?_package, inModules, if_pos hfolder]
  rfl

theorem inModules_of_not_isFolder {specifier : String} {folder : Path}
    (h : files.isFolder (folder.child "node_modules") = false) : r.inModules files specifier folder = none := by
  simp [inModules, h]

theorem Spares.find?_modules (h : r.Spares files main?) (specifier : String) (folders : List Path) :
    ((folders.filter fun folder => files.isFolder (folder.child "node_modules")).flatMap
      (r.modulePlaces files main? specifier)).find? files.isFile =
      folders.findSome? (r.inModules files specifier) := by
  induction folders with
  | nil => rfl
  | cons folder above ih =>
    rw [List.findSome?_cons, ← ih]
    cases hfolder : files.isFolder (folder.child "node_modules") with
    | true =>
      rw [List.filter_cons, if_pos hfolder, List.flatMap_cons, List.find?_append,
        h.find?_modulePlaces specifier hfolder]
      cases r.inModules files specifier folder <;> rfl
    | false => rw [List.filter_cons, if_neg (by simp [hfolder]), inModules_of_not_isFolder hfolder]

theorem Spares.find?_candidates (h : r.Spares files main?) (base : Path) (specifier : String) :
    (r.candidates files main? base base.ancestors specifier).find? files.isFile = r.resolve? files base specifier := by
  unfold candidates resolve?
  by_cases hplace : specifier.toList.head? = some '.' ∨ Path.isAbsolute ⟨specifier⟩
  · have hbare : isBare specifier = false := by simpa [isBare, or_iff_not_imp_left] using hplace
    rw [if_pos hplace, hbare, if_neg Bool.false_ne_true, find?_places]
  · have hbare : isBare specifier = true := by simpa [isBare] using hplace
    rw [if_neg hplace, if_pos hbare, h.find?_modules]

theorem spares_mainFile : r.Spares files (mainFile files) := fun _ => .inl rfl

/-- A specifier is resolved to the first file among its candidates, and fails to be if none of them is one. -/
theorem resolve_first_hit (r : Resolver) (files : Files) (base : Path) (specifier : String) :
    ∃ folders, base.Lineage folders ∧
      r.resolve files base specifier =
        ((r.candidates files (mainFile files) base folders specifier).find? files.isFile).elim
          (.error (.resolution specifier base)) .ok ∧
      ∀ main?, r.Spares files main? →
        (r.candidates files main? base folders specifier).find? files.isFile =
          (r.candidates files (mainFile files) base folders specifier).find? files.isFile := by
  refine ⟨base.ancestors, base.lineage_ancestors, ?_, fun main? h => ?_⟩
  · rw [spares_mainFile.find?_candidates, resolve]
    cases r.resolve? files base specifier <;> rfl
  · rw [h.find?_candidates, spares_mainFile.find?_candidates]

end Bundler.Resolver
