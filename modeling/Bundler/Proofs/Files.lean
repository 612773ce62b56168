import Bundler.Files
import Bundler.Proofs.Path.Normal

/-!
# Where a path leads

The walk along a path to a file ends with a name, and along names alone it leads to those names.
-/

namespace Bundler

theorem Node.find?_append (node : Node) (a b : List String) :
    node.find? (a ++ b) = (node.find? a).bind (·.find? b) := by
  induction a generalizing node with
  | nil => rfl
  | cons name names ih =>
    cases node with
    | file bytes => rfl
    | folder children =>
      simp only [List.cons_append, Node.find?, bind, Option.bind]
      cases children.lookup name with
      | none => rfl
      | some child => exact ih child

theorem Node.find?_dropLast {node : Node} {place : List String} {children : List (String × Node)}
    (h : node.find? place = some (.folder children)) :
    ∃ above, node.find? place.dropLast = some (.folder above) := by
  by_cases hne : place = []
  · exact ⟨children, by simpa [hne] using h⟩
  · rw [← List.dropLast_concat_getLast hne, Node.find?_append] at h
    cases hfound : node.find? place.dropLast with
    | none => simp [hfound] at h
    | some above =>
      cases above with
      | file bytes => simp [hfound, Node.find?] at h
      | folder above => exact ⟨above, rfl⟩

namespace Files

theorem isFile_iff {fs : Files} {p : Path} :
    fs.isFile p ↔ ∃ place bytes, fs.locate p = .ok place ∧ fs.tree.find? place = some (.file bytes) := by
  unfold isFile node
  cases hplace : fs.locate p with
  | error fault => simp [bind, Except.bind]
  | ok place =>
    cases hnode : fs.tree.find? place with
    | none => simp [bind, Except.bind, hnode, throw, throwThe, MonadExceptOf.throw]
    | some node =>
      cases node <;> simp [bind, Except.bind, hnode, pure, Except.pure, Node.isFolder]

theorem isFile_of_read {fs : Files} {p : Path} {text : String} (h : fs.read p = .ok text) :
    fs.isFile p := by
  unfold read at h
  unfold isFile
  cases hnode : fs.node p with
  | error fault => simp [hnode, bind, Except.bind] at h
  | ok node =>
    cases node with
    | file bytes => rfl
    | folder children =>
      simp [hnode, bind, Except.bind, throw, throwThe, MonadExceptOf.throw] at h

theorem steps_of_locate {fs : Files} {p : Path} {place : List String} (h : fs.locate p = .ok place) :
    fs.steps (if p.isAbsolute then [] else fs.current) (p.body.map String.ofList) = .ok place := by
  unfold locate open? at h
  split at h
  · cases h
  · split at h
    · cases h
    · split at h
      · cases h
      · exact h

theorem steps_concat {fs : Files} {place next : List String} {before : List String} {piece : String}
    (h : fs.steps place (before ++ [piece]) = .ok next) :
    ∃ mid, fs.steps place before = .ok mid ∧ fs.step mid piece = .ok next := by
  induction before generalizing place with
  | nil =>
    cases hstep : fs.step place piece with
    | error fault => simp [steps, hstep, bind, Except.bind] at h
    | ok mid => exact ⟨place, rfl, by simpa [steps, hstep, bind, Except.bind] using h⟩
  | cons first before ih =>
    simp only [List.cons_append, steps, bind, Except.bind] at h ⊢
    cases hstep : fs.step place first with
    | error fault => simp [hstep] at h
    | ok mid => exact ih (by simpa [hstep] using h)

theorem isName_of_step {fs : Files} {place next : List String} {piece : List Char} {bytes : ByteArray}
    (hslash : '/' ∉ piece) (h : fs.step place (String.ofList piece) = .ok next)
    (hfile : fs.tree.find? next = some (.file bytes)) : Path.IsName piece := by
  unfold step at h
  split at h
  · next children hfolder =>
    split at h
    · cases h
      simp [hfolder] at hfile
    · next hidle =>
      split at h
      · cases h
        obtain ⟨above, habove⟩ := Node.find?_dropLast hfolder
        simp [habove] at hfile
      · next hup =>
        simp only [← String.toList_inj, String.toList_ofList, Bool.or_eq_true, decide_eq_true_eq,
          not_or, String.isEmpty_iff] at hidle hup
        exact ⟨by simpa using hidle.1, by simpa using hidle.2, by simpa using hup, hslash⟩
  · cases h
  · cases h

theorem getLast_body_of_isFile {fs : Files} {p : Path} (h : fs.isFile p) :
    ∃ before last, p.body = before ++ [last] ∧ Path.IsName last := by
  obtain ⟨place, bytes, hlocate, hfile⟩ := isFile_iff.1 h
  have hne : p.body ≠ [] := by
    unfold Path.body
    split <;> rw [Path.pieces_eq_splitOn] <;> exact List.splitOn_ne_nil _ _
  refine ⟨_, _, (List.dropLast_concat_getLast hne).symm, ?_⟩
  have hslash := Path.slash_not_mem_body p _ (List.getLast_mem hne)
  have hsteps := steps_of_locate hlocate
  rw [← List.dropLast_concat_getLast hne, List.map_append] at hsteps
  obtain ⟨mid, -, hstep⟩ := steps_concat hsteps
  exact isName_of_step hslash hstep hfile

theorem step_eq_of_isName {fs : Files} {place next : List String} {piece : List Char}
    (hname : Path.IsName piece) (h : fs.step place (String.ofList piece) = .ok next) :
    next = place ++ [String.ofList piece] := by
  unfold step at h
  split at h
  · rw [if_neg, if_neg] at h
    · split at h
      · cases h
      · split at h
        · cases h
          rfl
        · cases h
    · rw [← String.toList_inj]
      simpa using hname.ne_dots
    · simp only [Bool.or_eq_true, decide_eq_true_eq, String.isEmpty_iff, ← String.toList_inj]
      simpa using ⟨hname.ne_nil, hname.ne_dot⟩
  · cases h
  · cases h

theorem steps_eq_of_isName {fs : Files} {place next : List String} {body : List (List Char)}
    (hnames : ∀ piece ∈ body, Path.IsName piece)
    (h : fs.steps place (body.map String.ofList) = .ok next) :
    next = place ++ body.map String.ofList := by
  induction body generalizing place with
  | nil =>
    cases h
    simp
  | cons piece rest ih =>
    simp only [List.map_cons, steps, bind, Except.bind] at h
    cases hstep : fs.step place (String.ofList piece) with
    | error fault => simp [hstep] at h
    | ok mid =>
      rw [hstep] at h
      rw [ih (fun piece hp => hnames piece (by simp [hp])) h,
        step_eq_of_isName (hnames piece (by simp)) hstep]
      simp

theorem find?_of_isFile {fs : Files} {body : List (List Char)}
    (hnames : ∀ piece ∈ body, Path.IsName piece) (h : fs.isFile (.ofBody true body)) :
    ∃ bytes, fs.tree.find? (body.map String.ofList) = some (.file bytes) := by
  obtain ⟨place, bytes, hlocate, hfile⟩ := isFile_iff.1 h
  have hsteps := steps_of_locate hlocate
  have hs : ∀ piece ∈ body, Path.IsStep piece := fun piece hp => .inr (hnames piece hp)
  rw [Path.isAbsolute_ofBody hs, Path.body_ofBody hs] at hsteps
  refine ⟨bytes, ?_⟩
  by_cases hb : body = []
  · obtain ⟨before, last, hbody, hlast⟩ := getLast_body_of_isFile h
    rw [Path.body_ofBody hs, if_pos hb, ← List.nil_append [[]]] at hbody
    rw [(List.append_inj' hbody rfl).2.symm |> List.cons.inj |>.1] at hlast
    exact absurd rfl hlast.ne_nil
  · rw [if_neg hb] at hsteps
    rw [steps_eq_of_isName hnames hsteps] at hfile
    simpa using hfile

end Files
end Bundler
