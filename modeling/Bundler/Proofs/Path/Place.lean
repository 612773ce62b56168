import Bundler.Proofs.Path.Normal

/-!
# The place of a path

The names that an absolute path leads along, read off its text: `..` goes back by one of them. Two
absolute paths have one place exactly if they have one normal form.
-/

namespace Bundler.Path

/-- One piece of a path, taken from a place. -/
def follow (place : List (List Char)) (piece : List Char) : List (List Char) :=
  if idle piece then place else if piece = ['.', '.'] then place.dropLast else place ++ [piece]

/-- The names that lead from the root to where an absolute path leads. -/
def place (p : Path) : List String := (p.body.foldl follow []).map String.ofList

theorem isName_follow {place : List (List Char)} (h : ∀ name ∈ place, IsName name) {piece : List Char}
    (hslash : '/' ∉ piece) : ∀ name ∈ follow place piece, IsName name := by
  unfold follow
  split
  · exact h
  · next hidle =>
    split
    · exact fun name hname => h name (List.dropLast_subset place hname)
    · next hup =>
      intro name hname
      rcases List.mem_append.1 hname with hname | hname
      · exact h name hname
      · rw [List.mem_singleton.1 hname]
        exact (isStep_of_not_idle hslash (by simpa using hidle)).resolve_left hup

theorem walk_back_follow {place : List (List Char)} (h : ∀ name ∈ place, IsName name) {piece : List Char}
    (hidle : idle piece = false) : walk (back true place) (.ofPiece piece) = back true (follow place piece) := by
  unfold follow
  rw [if_neg (by simp [hidle])]
  split
  · next hup =>
    subst hup
    rcases List.eq_nil_or_concat' place with rfl | ⟨before, last, rfl⟩
    · rfl
    · rw [List.dropLast_concat, back_concat, (h last (by simp)).ofPiece]
      rfl
  · next hup =>
    rw [back_concat, Component.ofPiece, if_neg hup]
    rfl

theorem foldl_walk_follow {place body : List (List Char)} (h : ∀ name ∈ place, IsName name)
    (hslash : ∀ piece ∈ body, '/' ∉ piece) :
    (∀ name ∈ body.foldl follow place, IsName name) ∧
    ((body.filter fun piece => !idle piece).map Component.ofPiece).foldl walk (back true place) =
      back true (body.foldl follow place) := by
  induction body generalizing place with
  | nil => exact ⟨h, rfl⟩
  | cons piece body ih =>
    rw [List.forall_mem_cons] at hslash
    obtain ⟨hnames, hfold⟩ := ih (isName_follow h hslash.1) hslash.2
    refine ⟨hnames, ?_⟩
    rw [List.foldl_cons, ← hfold]
    cases hidle : idle piece with
    | true => simp [hidle, follow]
    | false =>
      rw [List.filter_cons_of_pos (by simp [hidle]), List.map_cons, List.foldl_cons, walk_back_follow h hidle]

theorem normal_eq_place {p : Path} (hp : p.isAbsolute) :
    (∀ name ∈ p.body.foldl follow [], IsName name) ∧ p.normal = ofBody true (p.body.foldl follow []) := by
  obtain ⟨hnames, hfold⟩ := @foldl_walk_follow [] p.body (by simp) (slash_not_mem_body p)
  refine ⟨hnames, ?_⟩
  rw [normal, foldl_components, hp, hfold, back, List.reverse_reverse,
    ofComponents_clean fun piece hpiece => .inr (hnames piece hpiece)]

theorem ofBody_inj {a b : List (List Char)} (ha : ∀ name ∈ a, IsName name) (hb : ∀ name ∈ b, IsName name)
    (h : ofBody true a = ofBody true b) : a = b := by
  have hbodies := congrArg (fun p => p.body.filter fun piece => !idle piece) h
  simp only [filter_body_ofBody fun piece hpiece => .inr (ha piece hpiece),
    filter_body_ofBody fun piece hpiece => .inr (hb piece hpiece)] at hbodies
  exact hbodies

theorem place_eq_iff {p q : Path} (hp : p.isAbsolute) (hq : q.isAbsolute) :
    p.place = q.place ↔ p.normal = q.normal := by
  obtain ⟨hpnames, hpnormal⟩ := normal_eq_place hp
  obtain ⟨hqnames, hqnormal⟩ := normal_eq_place hq
  rw [hpnormal, hqnormal]
  constructor
  · intro h
    rw [List.map_injective_iff.2 (fun _ _ => String.ofList_inj.1) h]
  · intro h
    rw [place, place, ofBody_inj hpnames hqnames h]

end Bundler.Path
