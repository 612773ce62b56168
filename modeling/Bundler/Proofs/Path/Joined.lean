import Bundler.Proofs.Path.Normal
import Mathlib.Logic.Relation

/-!
# Joined paths and their normal form

What stands between the slashes of a joined path is what stands there in its two parts, so the steps of
the second part are taken from where the first one leads. Two paths have one normal form exactly if one
comes of the other by leaving out steps that cancel, and by putting such steps in.
-/

namespace Bundler.Path

/-! ## The pieces of a joined path -/

theorem pieces_append_slash (a b : List Char) : pieces (a ++ '/' :: b) = pieces a ++ pieces b := by
  induction a with
  | nil => simp [pieces]
  | cons c a ih =>
    rw [List.cons_append, pieces, pieces, ih]
    split
    · rfl
    · obtain ⟨p, ps, hp⟩ := List.exists_cons_of_ne_nil (List.splitOn_ne_nil '/' a)
      rw [← pieces_eq_splitOn] at hp
      rw [hp]
      rfl

theorem filter_body (p : Path) :
    (p.body.filter fun piece => !idle piece) = (pieces p.text.toList).filter fun piece => !idle piece := by
  unfold body
  split
  · next cs h =>
    rw [h]
    simp [pieces, idle]
  · rfl

theorem filter_body_join (a : Path) {b : Path} (hb : b.isAbsolute = false) :
    ((a.join b).body.filter fun piece => !idle piece) =
      (a.body.filter fun piece => !idle piece) ++ b.body.filter fun piece => !idle piece := by
  simp only [filter_body]
  rw [join, if_neg (by simp [hb])]
  split
  · next hend =>
    rw [Bool.or_eq_true, String.isEmpty_iff, beq_iff_eq] at hend
    rcases hend with hempty | hslash
    · simp [hempty, pieces, idle]
    · obtain ⟨front, hfront⟩ := List.getLast?_eq_some_iff.1 hslash
      have hsingle : pieces [] = [[]] := rfl
      simp [hfront, pieces_append_slash, hsingle, idle]
  · simp [pieces_append_slash]

theorem isAbsolute_join_eq (a : Path) {b : Path} (hb : b.isAbsolute = false) :
    (a.join b).isAbsolute = a.isAbsolute := by
  cases ha : a.isAbsolute with
  | true => exact isAbsolute_join ha b
  | false =>
    unfold isAbsolute at ha hb ⊢
    rw [join, if_neg (by simp [isAbsolute, hb])]
    cases htext : a.text.toList with
    | nil =>
      obtain hempty : a.text = "" := by simpa using htext
      simpa [hempty] using hb
    | cons c cs =>
      rw [htext] at ha
      split <;> simpa [htext] using ha

theorem foldl_join (a : Path) {b : Path} (hb : b.isAbsolute = false) :
    (a.join b).components.foldl walk [] =
      ((b.body.filter fun piece => !idle piece).map Component.ofPiece).foldl walk (a.components.foldl walk []) := by
  rw [foldl_components, foldl_components, filter_body_join a hb, isAbsolute_join_eq a hb, List.map_append,
    List.foldl_append]

theorem components_normal (p : Path) : p.normal.components = (p.components.foldl walk []).reverse := by
  obtain ⟨body, hbody, hfold⟩ := foldl_walk (clean_nil p.isAbsolute) fun _ => isStep_of_mem_body (p := p)
  rw [normal, foldl_components, hfold, back, List.reverse_reverse, ofComponents_clean hbody.isStep,
    components_ofBody hbody.isStep]

theorem foldl_components_normal (p : Path) :
    p.normal.components.foldl walk [] = p.components.foldl walk [] := by
  have hnormal : p.normal.normal = p.normal := (normal_normal p).normal_eq
  have hcomponents := components_normal p.normal
  rw [hnormal, components_normal p] at hcomponents
  rw [components_normal p]
  exact (List.reverse_injective hcomponents).symm

theorem normal_eq_of_foldl {p q : Path} (h : p.components.foldl walk [] = q.components.foldl walk []) :
    p.normal = q.normal := by
  rw [normal, normal, h]

theorem normal_join_normal (a b : Path) : (a.normal.join b).normal = (a.join b).normal := by
  cases hb : b.isAbsolute with
  | true => rw [join, join, if_pos hb, if_pos hb]
  | false =>
    apply normal_eq_of_foldl
    rw [foldl_join _ hb, foldl_join _ hb, foldl_components_normal]

/-! ## Steps that cancel -/

/-- Steps without some that lead nowhere: a `.`, a name with the `..` after it, or a `..` at the root. -/
inductive Cancels : List Component → List Component → Prop
  | here (before after : List Component) : Cancels (before ++ .here :: after) (before ++ after)
  | back (before : List Component) (s : String) (after : List Component) :
      Cancels (before ++ .name s :: .up :: after) (before ++ after)
  | top (before after : List Component) : Cancels (before ++ .root :: .up :: after) (before ++ .root :: after)

theorem Cancels.foldl_eq {a b : List Component} (h : Cancels a b) (start : List Component) :
    a.foldl walk start = b.foldl walk start := by
  cases h with
  | here before after => simp [walk]
  | back before s after => simp [walk]
  | top before after => simp [walk]

theorem cancels_walk (taken : List Component) (step : Component) (rest : List Component) :
    Relation.ReflTransGen Cancels (taken.reverse ++ step :: rest) ((walk taken step).reverse ++ rest) := by
  cases step with
  | here => exact .single (.here _ _)
  | root => simpa [walk] using Relation.ReflTransGen.refl
  | name s => simpa [walk] using Relation.ReflTransGen.refl
  | up =>
    cases taken with
    | nil => exact .refl
    | cons last taken =>
      cases last with
      | name s => simpa [walk] using Relation.ReflTransGen.single (Cancels.back taken.reverse s rest)
      | root => simpa [walk] using Relation.ReflTransGen.single (Cancels.top taken.reverse rest)
      | here => simpa [walk] using Relation.ReflTransGen.refl
      | up => simpa [walk] using Relation.ReflTransGen.refl

theorem cancels_foldl (taken steps : List Component) :
    Relation.ReflTransGen Cancels (taken.reverse ++ steps) (steps.foldl walk taken).reverse := by
  induction steps generalizing taken with
  | nil => simpa using Relation.ReflTransGen.refl
  | cons step rest ih => exact (cancels_walk taken step rest).trans (ih _)

theorem cancels_normal (p : Path) : Relation.ReflTransGen Cancels p.components p.normal.components := by
  rw [components_normal]
  exact cancels_foldl [] p.components

theorem foldl_eq_of_eqvGen {a b : List Component} (h : Relation.EqvGen Cancels a b) :
    a.foldl walk [] = b.foldl walk [] := by
  induction h with
  | rel _ _ h => exact h.foldl_eq []
  | refl _ => rfl
  | symm _ _ _ ih => exact ih.symm
  | trans _ _ _ _ _ ih ih' => exact ih.trans ih'

theorem normal_eq_iff_cancels {p q : Path} :
    p.normal = q.normal ↔ Relation.EqvGen Cancels p.components q.components := by
  constructor
  · intro h
    have hp := Relation.EqvGen.reflTransGen_le_eqvGen Cancels _ _ (cancels_normal p)
    have hq := Relation.EqvGen.reflTransGen_le_eqvGen Cancels _ _ (cancels_normal q)
    rw [h] at hp
    exact hp.trans _ _ _ (hq.symm _ _)
  · exact fun h => normal_eq_of_foldl (foldl_eq_of_eqvGen h)

/-! ## The normal form -/

theorem exists_components_normal (p : Path) : ∃ (ups : Nat) (names : List String),
    p.normal.components = (if p.isAbsolute then [.root] else []) ++ (List.replicate ups .up ++ names.map .name) ∧
      (p.isAbsolute → ups = 0) := by
  obtain ⟨body, hbody, hnormal⟩ := exists_normal_eq p
  obtain ⟨ups, names, rfl, hups, hnames⟩ := hbody.out
  refine ⟨ups, names.map String.ofList, ?_, hups⟩
  have hmap : names.map Component.ofPiece = (names.map String.ofList).map .name := by
    rw [List.map_map]
    exact List.map_congr_left fun name hname => (hnames name hname).ofPiece
  rw [hnormal, components_ofBody hbody.isStep, List.map_append, List.map_replicate, hmap]
  rfl

/-- Two paths have one normal form exactly if steps that cancel make one of the other. -/
theorem normal_form_and_join (p : Path) :
    .here ∉ p.normal.components ∧
    (∃ (ups : Nat) (names : List String), p.normal.components =
        (if p.isAbsolute then [.root] else []) ++ (List.replicate ups .up ++ names.map .name) ∧
      (p.isAbsolute → ups = 0)) ∧
    p.normal.isAbsolute = p.isAbsolute ∧
    p.normal.normal = p.normal ∧
    (∀ q : Path, p.normal = q.normal ↔ Relation.EqvGen Cancels p.components q.components) ∧
    ∀ q : Path, (p.join q).normal = (p.normal.join q).normal := by
  refine ⟨?_, exists_components_normal p, isAbsolute_normal p, (normal_normal p).normal_eq,
    fun q => normal_eq_iff_cancels, fun q => (normal_join_normal p q).symm⟩
  obtain ⟨ups, names, hcomponents, -⟩ := exists_components_normal p
  rw [hcomponents]
  cases p.isAbsolute <;> simp [List.mem_replicate]

end Bundler.Path
