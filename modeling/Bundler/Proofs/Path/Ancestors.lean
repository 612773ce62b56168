import Bundler.Proofs.Path.Normal

/-!
# The folders above a path

Taking the parent over and over ends, since a parent has the shorter text, and it leads through the
ancestors of a path.
-/

namespace Bundler.Path

/-- The paths that taking the parent leads through, from a path on. -/
inductive Lineage : Path → List Path → Prop where
  | top {p : Path} : p.parent? = none → Lineage p [p]
  | up {p q : Path} {above : List Path} : p.parent? = some q → Lineage q above → Lineage p (p :: above)

theorem ofBody_body (p : Path) : ofBody p.isAbsolute p.body = p := by
  rw [Path.mk.injEq, ← String.toList_inj, text_ofBody]
  unfold isAbsolute body
  cases hlist : p.text.toList with
  | nil => rfl
  | cons c cs =>
    by_cases hc : c = '/'
    · subst hc
      simp [pieces_eq_splitOn]
    · have hhead : ((c :: cs).head? == some '/') = false := by simpa using hc
      rw [hhead, if_neg Bool.false_ne_true]
      split
      · next heq => exact absurd (List.cons.inj heq).1 hc
      · simp [pieces_eq_splitOn]

theorem length_intercalate (pieces : List (List Char)) :
    (['/'].intercalate pieces).length = pieces.flatten.length + (pieces.length - 1) := by
  induction pieces with
  | nil => rfl
  | cons piece rest ih =>
    cases rest with
    | nil => simp
    | cons next rest =>
      rw [List.intercalate_cons_cons, List.length_append, List.length_append, ih]
      simp only [List.flatten_cons, List.length_append, List.length_cons, List.length_nil]
      omega

theorem length_intercalate_lt (front : List (List Char)) {rest : List (List Char)} (h : ∃ piece ∈ rest, piece ≠ []) :
    (['/'].intercalate front).length < (['/'].intercalate (front ++ rest)).length := by
  obtain ⟨piece, hmem, hne⟩ := h
  have hpiece : 0 < rest.flatten.length :=
    List.length_pos_of_ne_nil fun hnil => hne (List.flatten_eq_nil_iff.1 hnil piece hmem)
  simp only [length_intercalate, List.flatten_append, List.length_append]
  omega

theorem trimEnd_prefix (body : List (List Char)) : trimEnd body <+: body := by
  simpa [trimEnd] using List.reverse_prefix.2 (List.dropWhile_suffix (l := body.reverse) idle)

theorem exists_cut_of_trimEnd {body : List (List Char)} (h : trimEnd body ≠ []) :
    ∃ rest, body = trimEnd (trimEnd body).dropLast ++ rest ∧ ∃ piece ∈ rest, piece ≠ [] := by
  have hlast : idle ((trimEnd body).getLast h) = false := by
    simpa [trimEnd] using List.head_dropWhile_not idle (by simpa [trimEnd] using h)
  obtain ⟨idles, hbody⟩ := trimEnd_prefix body
  obtain ⟨more, hfront⟩ := trimEnd_prefix (trimEnd body).dropLast
  refine ⟨more ++ [(trimEnd body).getLast h] ++ idles, ?_, (trimEnd body).getLast h, by simp, ?_⟩
  · rw [← List.append_assoc, ← List.append_assoc, hfront, List.dropLast_append_getLast, hbody]
  · intro hnil
    simp [hnil, idle] at hlast

theorem length_ofBody_lt {p : Path} {front rest : List (List Char)} (hbody : p.body = front ++ rest)
    (h : ∃ piece ∈ rest, piece ≠ []) : (ofBody p.isAbsolute front).text.length < p.text.length := by
  have hlt := length_intercalate_lt front h
  rw [← hbody] at hlt
  conv_rhs => rw [← ofBody_body p]
  simp only [← String.length_toList, text_ofBody, List.length_append]
  omega

theorem length_parent_lt {p q : Path} (h : p.parent? = some q) : q.text.length < p.text.length := by
  unfold parent? at h
  split at h
  · next hhere =>
    obtain ⟨hrelative, hdot⟩ : p.isAbsolute = false ∧ p.body.head? = some ['.'] := by
      simpa [startsHere] using hhere
    obtain ⟨tail, hbody⟩ : ∃ tail, p.body = ['.'] :: tail := List.head?_eq_some_iff.1 hdot
    rw [hbody, List.tail_cons] at h
    split at h
    · cases h
      have hcut : p.body = [] ++ ['.'] :: tail := hbody
      have hlt := length_ofBody_lt hcut ⟨['.'], by simp, by simp⟩
      simpa [hrelative, ofBody] using hlt
    · next steps hsteps =>
      cases h
      obtain ⟨rest, hrest, hpiece⟩ := exists_cut_of_trimEnd hsteps
      have hfront : p.body = (['.'] :: trimEnd (trimEnd tail).dropLast) ++ rest := by
        rw [hbody, List.cons_append, ← hrest]
      simpa only [hrelative] using length_ofBody_lt hfront hpiece
  · split at h
    · cases h
    · next steps hsteps =>
      cases h
      obtain ⟨rest, hrest, hpiece⟩ := exists_cut_of_trimEnd hsteps
      exact length_ofBody_lt hrest hpiece

theorem lineage_ancestorsWithin {n : Nat} {p : Path} (h : p.text.length < n) : Lineage p (ancestorsWithin n p) := by
  induction n generalizing p with
  | zero => omega
  | succ n ih =>
    rw [ancestorsWithin]
    split
    · next q hq =>
      have := length_parent_lt hq
      exact .up hq (ih (by omega))
    · next htop => exact .top htop

theorem lineage_ancestors (p : Path) : Lineage p p.ancestors := lineage_ancestorsWithin (Nat.lt_succ_self _)

end Bundler.Path
