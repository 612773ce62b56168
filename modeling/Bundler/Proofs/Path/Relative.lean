import Bundler.Proofs.Path.Ancestors
import Bundler.Proofs.Path.Ids
import Bundler.Proofs.Path.Joined
import Mathlib.Data.List.DropRight

/-!
# The way there and back

The way from one path to another goes up to where they part and then down. Joined to the first path it
leads to the second one, and cutting off the first path where the second one starts with it gives the same
way.
-/

namespace Bundler.Path

/-! ## Cutting off a beginning -/

theorem filter_dropSteps (n : Nat) (body : List (List Char)) :
    ((dropSteps n body).filter fun piece => !idle piece) = (body.filter fun piece => !idle piece).drop n := by
  fun_induction dropSteps n body with
  | case1 n => simp
  | case2 n piece rest hidle ih => simpa [hidle] using ih
  | case3 piece rest hidle => simp
  | case4 piece rest hidle n ih => simpa [hidle] using ih

theorem head?_dropSteps {n : Nat} {body : List (List Char)} {piece : List Char}
    (h : (dropSteps n body).head? = some piece) : idle piece = false := by
  fun_induction dropSteps n body with
  | case1 n => simp at h
  | case2 n first rest hidle ih => exact ih h
  | case3 first rest hidle =>
    obtain rfl : first = piece := by simpa using h
    simpa using hidle
  | case4 first rest hidle n ih => exact ih h

theorem dropSteps_suffix (n : Nat) (body : List (List Char)) : dropSteps n body <:+ body := by
  fun_induction dropSteps n body with
  | case1 n => exact List.suffix_rfl
  | case2 n piece rest hidle ih => exact ih.trans (List.suffix_cons piece rest)
  | case3 piece rest hidle => exact List.suffix_rfl
  | case4 piece rest hidle n ih => exact ih.trans (List.suffix_cons piece rest)

theorem filter_trimEnd (body : List (List Char)) :
    ((trimEnd body).filter fun piece => !idle piece) = body.filter fun piece => !idle piece := by
  induction body using List.reverseRecOn with
  | nil => rfl
  | append_singleton body piece ih =>
    show ((List.rdropWhile idle (body ++ [piece])).filter fun piece => !idle piece) = _
    rw [List.rdropWhile_concat]
    split
    · next hidle =>
      rw [List.filter_append, List.filter_cons_of_neg (by simp [hidle]), List.filter_nil, List.append_nil]
      exact ih
    · rfl

theorem components_of_not_mem_here {p : Path} (hp : p.isAbsolute = false) (hhere : .here ∉ p.components) :
    p.components = (p.body.filter fun piece => !idle piece).map .ofPiece := by
  unfold components at hhere ⊢
  cases hstarts : p.startsHere <;> simp_all

theorem components_ofBody_cons {first : List Char} {rest : List (List Char)}
    (hslash : ∀ piece ∈ first :: rest, '/' ∉ piece) (hfirst : idle first = false) :
    (ofBody false (first :: rest)).isAbsolute = false ∧
      (ofBody false (first :: rest)).components =
        ((first :: rest).filter fun piece => !idle piece).map .ofPiece := by
  have hstep : IsStep first := isStep_of_not_idle (hslash first (by simp)) hfirst
  have htext : (ofBody false (first :: rest)).text.toList = ['/'].intercalate (first :: rest) := by
    rw [text_ofBody]
    rfl
  have hhead : (['/'].intercalate (first :: rest)).head? ≠ some '/' := by
    obtain ⟨c, cs, rfl⟩ := List.exists_cons_of_ne_nil hstep.ne_nil
    have hc : c ≠ '/' := fun hc => hstep.no_slash (by simp [hc])
    cases rest <;> simpa [List.intercalate_cons_cons] using hc
  have hbody : (ofBody false (first :: rest)).body = first :: rest := by
    unfold Path.body
    rw [htext]
    split
    · next heq => simp [heq] at hhead
    · exact pieces_intercalate (by simp) hslash
  have habs : (ofBody false (first :: rest)).isAbsolute = false := by
    rw [isAbsolute, htext]
    simpa using hhead
  refine ⟨habs, ?_⟩
  have hdot : first ≠ ['.'] := by
    rintro rfl
    exact absurd hfirst (by decide)
  unfold components
  simp [habs, startsHere, hbody, hdot]

theorem components_of_isAbsolute {p : Path} (hp : p.isAbsolute) :
    p.components = .root :: (p.body.filter fun piece => !idle piece).map .ofPiece := by
  simp [components, hp]

theorem components_ofBody_dropSteps (p : Path) (n : Nat) :
    (ofBody false (trimEnd (dropSteps n p.body))).isAbsolute = false ∧
      (ofBody false (trimEnd (dropSteps n p.body))).components =
        ((p.body.filter fun piece => !idle piece).drop n).map .ofPiece := by
  rw [← filter_dropSteps, ← filter_trimEnd (dropSteps n p.body)]
  cases hleft : trimEnd (dropSteps n p.body) with
  | nil => exact ⟨rfl, rfl⟩
  | cons first more =>
    -- Pieces of a spelling may be idle further on, but the first one that is left is a step.
    have hstart : first :: more <+: dropSteps n p.body := hleft ▸ trimEnd_prefix _
    obtain ⟨left, hcons, -⟩ := List.cons_prefix_iff.1 hstart
    have hfirst : (dropSteps n p.body).head? = some first := by rw [hcons, List.head?_cons]
    refine components_ofBody_cons (fun piece hpiece => ?_) (head?_dropSteps hfirst)
    exact slash_not_mem_body p piece ((dropSteps_suffix n p.body).subset (hstart.subset hpiece))

theorem components_of_strip? {p base rest : Path} (hp : p.isAbsolute) (hbase : base.isAbsolute)
    (h : strip? base p = some rest) :
    base.components <+: p.components ∧ rest.isAbsolute = false ∧
      rest.components = p.components.drop base.components.length := by
  unfold strip? at h
  split at h
  · next hstart =>
    refine ⟨List.isPrefixOf_iff_prefix.1 hstart, ?_⟩
    rw [if_neg (by simp [components_of_isAbsolute hbase])] at h
    simp only [hp, Bool.true_or, if_true, Option.some.injEq] at h
    subst h
    rw [components_of_isAbsolute hp, components_of_isAbsolute hbase, List.length_cons, List.drop_succ_cons,
      Nat.add_sub_cancel, ← List.map_drop]
    exact components_ofBody_dropSteps p _
  · cases h

/-! ## Up and down again -/

/-- The way from `base` to `p` through where they part. -/
def detour (p base : Path) : Path :=
  ofComponents ((diverge p.components base.components).2.map (fun _ => .up) ++
    (diverge p.components base.components).1)

theorem relative_eq_getD (p base : Path) : p.relative base = (strip? base p).getD (p.detour base) := by
  unfold relative detour
  cases strip? base p <;> rfl

theorem exists_names_of_same {p : Path} (hp : p.isAbsolute) (h : p.normal.same p) :
    ∃ body : List (List Char), (∀ piece ∈ body, IsName piece) ∧ p.components = .root :: body.map .ofPiece := by
  obtain ⟨body, hbody, hnormal⟩ := (normal_normal p).names ((isAbsolute_normal p).trans hp)
  refine ⟨body, hbody, ?_⟩
  rw [← components_of_isName hbody, ← hnormal]
  exact (beq_iff_eq.1 h).symm

theorem foldl_components_of_same {p : Path} (h : p.normal.same p) :
    p.components.foldl walk [] = p.components.reverse := by
  have hcomponents : p.normal.components = p.components := beq_iff_eq.1 h
  rw [← hcomponents, foldl_components_normal, components_normal, List.reverse_reverse]

theorem foldl_walk_up {names : List (List Char)} (h : ∀ piece ∈ names, IsName piece) (before : List Component) :
    (List.replicate names.length Component.up).foldl walk ((names.map .ofPiece).reverse ++ before) = before := by
  induction names using List.reverseRecOn with
  | nil => rfl
  | append_singleton names last ih =>
    have hlast : IsName last := h last (by simp)
    rw [List.length_append, List.length_singleton, List.replicate_succ, List.map_append, List.reverse_append,
      List.foldl_cons]
    simpa [hlast.ofPiece, walk] using ih fun piece hp => h piece (by simp [hp])

theorem foldl_walk_down {names : List (List Char)} (h : ∀ piece ∈ names, IsName piece) (before : List Component) :
    (names.map Component.ofPiece).foldl walk before = (names.map .ofPiece).reverse ++ before := by
  induction names generalizing before with
  | nil => rfl
  | cons first names ih =>
    rw [List.forall_mem_cons] at h
    have hfirst : walk before (.ofPiece first) = .ofPiece first :: before := by
      rw [h.1.ofPiece]
      rfl
    rw [List.map_cons, List.foldl_cons, hfirst, ih h.2]
    simp

section
variable {p base : Path} {a r : List (List Char)}

/-- The way through where two absolute paths part, and the way that is taken, have the same steps. -/
theorem exists_fork_relative (hp : p.isAbsolute) (hbase : base.isAbsolute) (ha : ∀ piece ∈ a, IsName piece)
    (hr : ∀ piece ∈ r, IsName piece) (hpsteps : p.components = .root :: a.map .ofPiece)
    (hbsteps : base.components = .root :: r.map .ofPiece) :
    ∃ common ahead behind : List (List Char), (∀ piece ∈ ahead, IsName piece) ∧ (∀ piece ∈ behind, IsName piece) ∧
      Fork p.components base.components (.root :: common.map .ofPiece) (ahead.map .ofPiece) (behind.map .ofPiece) ∧
      (p.detour base).Normal ∧
      (p.detour base).components = List.replicate behind.length .up ++ ahead.map .ofPiece ∧
      (p.relative base).isAbsolute = false ∧
      (p.relative base).components = List.replicate behind.length .up ++ ahead.map .ofPiece := by
  obtain ⟨common, ahead, behind, rfl, rfl, hfork, hdiverge⟩ := exists_fork_names ha hr
  rw [← hpsteps, ← hbsteps] at hfork hdiverge
  have hahead : ∀ piece ∈ ahead, IsName piece := fun piece hpiece => ha piece (by simp [hpiece])
  have hway : ∀ piece ∈ List.replicate behind.length up ++ ahead, IsStep piece := isStep_of_mem_way hahead
  have hdetour : p.detour base = ofBody false (List.replicate behind.length up ++ ahead) := by
    rw [← ofComponents_way hahead]
    simp [detour, hdiverge, Function.comp_def, List.map_const']
  have hsteps : (p.detour base).components = List.replicate behind.length .up ++ ahead.map .ofPiece := by
    rw [hdetour, components_ofBody hway, List.map_append, List.map_replicate]
    rfl
  refine ⟨common, ahead, behind, hahead, fun piece hpiece => hr piece (by simp [hpiece]), hfork,
    ⟨false, _, ⟨_, ahead, rfl, by simp, hahead⟩, hdetour⟩, hsteps, ?_⟩
  rw [relative_eq_getD]
  cases hstrip : strip? base p with
  | none => exact ⟨by rw [Option.getD_none, hdetour, isAbsolute_ofBody hway], hsteps⟩
  | some rest =>
    -- `base` is a beginning of `p`, so it is all of the common one and there is nothing to go back over.
    obtain ⟨hstart, hrest, hcomponents⟩ := components_of_strip? hp hbase hstrip
    obtain rfl : behind = [] := List.map_eq_nil_iff.1 (hfork.behind_eq_nil hstart)
    refine ⟨hrest, ?_⟩
    show rest.components = _
    rw [hcomponents, hfork.left, hfork.right]
    simp

theorem relative_congr {base' : Path} (h : base.components = base'.components) (p : Path) :
    p.relative base = p.relative base' := by
  rw [relative_eq_getD, relative_eq_getD, strip?, strip?, detour, detour, h]

theorem normal_relative (hp : p.Canonical) (hbase : base.isAbsolute) (hsame : base.normal.same base) :
    (p.relative base).Normal := by
  obtain ⟨a, ha, rfl⟩ := hp.normal.names hp.isAbsolute
  obtain ⟨r, hr, hnormal⟩ := (normal_normal base).names ((isAbsolute_normal base).trans hbase)
  obtain ⟨common, ahead, behind, rfl, -, hway⟩ := relative_ofBody ha hr
  rw [relative_congr (beq_iff_eq.1 hsame).symm, hnormal, hway]
  exact ⟨false, _, ⟨_, ahead, rfl, by simp, fun piece hpiece => ha piece (by simp [hpiece])⟩, rfl⟩

end

/-- The way from one absolute path to another, joined to the first, leads to the second. -/
theorem normal_join_relative {p base : Path} (hp : p.isAbsolute) (hbase : base.isAbsolute)
    (hpsame : p.normal.same p) (hbsame : base.normal.same base) :
    (base.join (p.relative base)).normal = p.normal ∧
    (base.join (p.relative base)).normal.same p ∧
    (p.relative base).isAbsolute = false ∧
    (∃ common ahead behind, Fork p.components base.components common ahead behind ∧
      (p.relative base).components = List.replicate behind.length .up ++ ahead) ∧
    p.relative base = (strip? base p).getD (p.detour base) ∧
    (∀ rest, strip? base p = some rest → rest.same (p.detour base)) ∧
    (p.normal = p → p.relative base = p.detour base) := by
  obtain ⟨a, ha, hpsteps⟩ := exists_names_of_same hp hpsame
  obtain ⟨r, hr, hbsteps⟩ := exists_names_of_same hbase hbsame
  obtain ⟨common, ahead, behind, hahead, hbehind, hfork, hnormal, hdetour, habs, hrelative⟩ :=
    exists_fork_relative hp hbase ha hr hpsteps hbsteps
  have hhere : .here ∉ (p.relative base).components := by
    rw [hrelative, List.mem_append, List.mem_map]
    rintro (hup | ⟨piece, hpiece, hname⟩)
    · cases (List.mem_replicate.1 hup).2
    · rw [(hahead piece hpiece).ofPiece] at hname
      cases hname
  -- From the steps of `base` up over those behind, and from the common beginning down those ahead.
  have hback : (base.join (p.relative base)).normal = p.normal := by
    apply normal_eq_of_foldl
    rw [foldl_join base habs, ← components_of_not_mem_here habs hhere, hrelative, foldl_components_of_same hbsame,
      foldl_components_of_same hpsame, hfork.right, List.reverse_append, List.foldl_append,
      foldl_walk_up hbehind, foldl_walk_down hahead, ← List.reverse_append, ← hfork.left]
  have hsame : (p.relative base).same (p.detour base) := by
    rw [same, hrelative, hdetour, beq_self_eq_true]
  refine ⟨hback, ?_, habs, ⟨_, _, _, hfork, by rw [List.length_map, hrelative]⟩,
    relative_eq_getD p base, ?_, ?_⟩
  · rw [hback]
    exact hpsame
  · intro rest hrest
    rwa [relative_eq_getD, hrest, Option.getD_some] at hsame
  · intro hspelled
    exact (normal_relative (canonical_of_normal_eq hp hspelled) hbase hbsame).eq_of_same hnormal hsame

theorem normal_join_relative_shared :
    isAbsolute ⟨"/shared//b.js"⟩ ∧ isAbsolute ⟨"/project/src/"⟩ ∧
    (normal ⟨"/shared//b.js"⟩).same ⟨"/shared//b.js"⟩ ∧ (normal ⟨"/project/src/"⟩).same ⟨"/project/src/"⟩ ∧
    relative ⟨"/shared//b.js"⟩ ⟨"/project/src/"⟩ = ⟨"../../shared/b.js"⟩ ∧
    (join ⟨"/project/src/"⟩ (relative ⟨"/shared//b.js"⟩ ⟨"/project/src/"⟩)).normal = ⟨"/shared/b.js"⟩ :=
  ⟨by decide, by decide, by decide, by decide, by decide,
    (normal_join_relative (by decide) (by decide) (by decide) (by decide)).1.trans (by decide)⟩

end Bundler.Path
