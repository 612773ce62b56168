import Bundler.Path
import Mathlib.Data.List.Basic

/-!
# The normal form of a path

A path in normal form is written out from a clean body: names, with `..` only in front of them and
none at all after a root. Taking the normal form gives such a path, and leaves one as it is.
-/

namespace Bundler.Path

/-! ## Pieces -/

theorem pieces_eq_splitOn (cs : List Char) : pieces cs = cs.splitOn '/' := by
  induction cs with
  | nil => rfl
  | cons c cs ih =>
    rw [List.splitOn_cons_eq_if_modifyHead, pieces, ih]
    by_cases hc : c = '/'
    · simp [hc]
    · rw [if_neg hc, if_neg (by simpa using hc)]
      obtain ⟨p, ps, hp⟩ := List.exists_cons_of_ne_nil (List.splitOn_ne_nil '/' cs)
      simp [hp]

theorem pieces_intercalate {body : List (List Char)} (hne : body ≠ [])
    (h : ∀ piece ∈ body, '/' ∉ piece) : pieces (['/'].intercalate body) = body := by
  rw [pieces_eq_splitOn, List.splitOn_intercalate '/' h hne]

theorem slash_not_mem_pieces (cs : List Char) : ∀ piece ∈ pieces cs, '/' ∉ piece := by
  induction cs with
  | nil => simp [pieces]
  | cons c cs ih =>
    rw [pieces]
    split
    · simpa using ih
    · next hc =>
      split
      · simpa using fun h => hc h.symm
      · next p ps hp =>
        rw [hp, List.forall_mem_cons] at ih
        rw [List.forall_mem_cons, List.mem_cons, not_or]
        exact ⟨⟨fun h => hc h.symm, ih.1⟩, ih.2⟩

theorem slash_not_mem_body (p : Path) : ∀ piece ∈ p.body, '/' ∉ piece := by
  unfold body
  split <;> exact slash_not_mem_pieces _

/-! ## Names -/

/-- A piece that leads further down. -/
structure IsName (piece : List Char) : Prop where
  ne_nil : piece ≠ []
  ne_dot : piece ≠ ['.']
  ne_dots : piece ≠ ['.', '.']
  no_slash : '/' ∉ piece

theorem IsName.not_idle {piece : List Char} (h : IsName piece) : idle piece = false := by
  simp [idle, h.ne_nil, h.ne_dot]

theorem IsName.ofPiece {piece : List Char} (h : IsName piece) :
    Component.ofPiece piece = .name (String.ofList piece) := by
  rw [Component.ofPiece, if_neg h.ne_dots]

theorem isName_index : IsName "index".toList := ⟨by decide, by decide, by decide, by decide⟩

/-- The pieces of a path in normal form. -/
structure Clean (abs : Bool) (body : List (List Char)) : Prop where
  out : ∃ k names, body = List.replicate k ['.', '.'] ++ names ∧ (abs = true → k = 0) ∧
    ∀ name ∈ names, IsName name

/-- A piece that is neither idle nor broken: a name or a `..`. -/
def IsStep (piece : List Char) : Prop := piece = ['.', '.'] ∨ IsName piece

theorem IsStep.ne_nil {piece : List Char} (h : IsStep piece) : piece ≠ [] := by
  rcases h with rfl | h
  · simp
  · exact h.ne_nil

theorem IsStep.no_slash {piece : List Char} (h : IsStep piece) : '/' ∉ piece := by
  rcases h with rfl | h
  · simp
  · exact h.no_slash

theorem IsStep.not_idle {piece : List Char} (h : IsStep piece) : idle piece = false := by
  rcases h with rfl | h
  · rfl
  · exact h.not_idle

theorem IsStep.append {piece more : List Char} (h : IsStep piece) (hmore : '/' ∉ more) (hne : more ≠ []) :
    IsName (piece ++ more) := by
  have hdot : piece ≠ ['.'] := by
    rcases h with rfl | h
    · simp
    · exact h.ne_dot
  refine ⟨by simp [hne], ?_, ?_, by simp [h.no_slash, hmore]⟩
  · simp [List.append_eq_singleton_iff, h.ne_nil, hne]
  · intro he
    rcases List.append_eq_cons_iff.1 he with ⟨hnil, -⟩ | ⟨rest, rfl, hrest⟩
    · exact h.ne_nil hnil
    · rcases List.append_eq_singleton_iff.1 hrest.symm with ⟨rfl, -⟩ | ⟨-, rfl⟩
      · exact hdot rfl
      · exact hne rfl

theorem isStep_of_not_idle {piece : List Char} (hslash : '/' ∉ piece) (h : idle piece = false) :
    IsStep piece := by
  simp only [idle, Bool.or_eq_false_iff, beq_eq_false_iff_ne] at h
  by_cases hup : piece = ['.', '.']
  · exact .inl hup
  · exact .inr ⟨h.1, h.2, hup, hslash⟩

theorem Clean.isStep {abs : Bool} {body : List (List Char)} (h : Clean abs body) :
    ∀ piece ∈ body, IsStep piece := by
  obtain ⟨k, names, rfl, -, hnames⟩ := h.out
  intro piece hp
  rcases List.mem_append.1 hp with hp | hp
  · exact .inl (List.eq_of_mem_replicate hp)
  · exact .inr (hnames piece hp)

theorem Clean.isName {body : List (List Char)} (h : Clean true body) :
    ∀ piece ∈ body, IsName piece := by
  obtain ⟨k, names, rfl, hk, hnames⟩ := h.out
  simpa [hk rfl] using hnames

theorem clean_of_isName {abs : Bool} {body : List (List Char)} (h : ∀ piece ∈ body, IsName piece) :
    Clean abs body :=
  ⟨0, body, by simp, fun _ => rfl, h⟩

theorem Clean.append {abs : Bool} {body names : List (List Char)} (h : Clean abs body)
    (hnames : ∀ name ∈ names, IsName name) : Clean abs (body ++ names) := by
  obtain ⟨k, before, rfl, hk, hbefore⟩ := h.out
  refine ⟨k, before ++ names, by simp, hk, ?_⟩
  intro name hn
  rcases List.mem_append.1 hn with hn | hn
  · exact hbefore name hn
  · exact hnames name hn

/-! ## Writing a body out -/

theorem text_ofBody (abs : Bool) (body : List (List Char)) :
    (ofBody abs body).text.toList = (if abs then ['/'] else []) ++ ['/'].intercalate body := by
  cases abs <;> simp [ofBody]

theorem intercalate_concat {body : List (List Char)} (hne : body ≠ []) (piece : List Char) :
    ['/'].intercalate (body ++ [piece]) = ['/'].intercalate body ++ '/' :: piece := by
  induction body with
  | nil => exact absurd rfl hne
  | cons b bs ih =>
    cases bs with
    | nil => simp
    | cons c cs =>
      have ih := ih (by simp)
      have hcons : ['/'].intercalate (b :: c :: cs) = b ++ ['/'] ++ ['/'].intercalate (c :: cs) :=
        List.intercalate_cons_of_ne_nil (by simp)
      rw [List.cons_append, List.intercalate_cons_of_ne_nil (by simp), ih, hcons]
      simp only [List.append_assoc]

theorem head?_intercalate {body : List (List Char)} (h : ∀ piece ∈ body, IsStep piece) :
    (['/'].intercalate body).head? ≠ some '/' := by
  cases body with
  | nil => simp
  | cons b bs =>
    have hb := h b (by simp)
    obtain ⟨c, cs, rfl⟩ := List.exists_cons_of_ne_nil hb.ne_nil
    have hc : c ≠ '/' := fun hc => hb.no_slash (by simp [hc])
    cases bs with
    | nil => simpa using hc
    | cons d ds => simpa [List.intercalate_cons_cons] using hc

theorem getLast?_intercalate {body : List (List Char)} (hne : body ≠ [])
    (h : ∀ piece ∈ body, IsStep piece) :
    ∃ c, (['/'].intercalate body).getLast? = some c ∧ c ≠ '/' := by
  obtain ⟨before, last, rfl⟩ : ∃ before last, body = before ++ [last] :=
    ⟨_, _, (List.dropLast_concat_getLast hne).symm⟩
  have hlast := h last (by simp)
  obtain ⟨c, hc⟩ := Option.isSome_iff_exists.1 (List.getLast?_isSome.2 hlast.ne_nil)
  refine ⟨c, ?_, fun he => hlast.no_slash (he ▸ List.mem_of_getLast? hc)⟩
  by_cases hb : before = []
  · simpa [hb] using hc
  · rw [intercalate_concat hb, List.getLast?_append, List.getLast?_cons, hc]
    rfl

theorem isAbsolute_ofBody {abs : Bool} {body : List (List Char)} (h : ∀ piece ∈ body, IsStep piece) :
    (ofBody abs body).isAbsolute = abs := by
  rw [isAbsolute, text_ofBody]
  cases abs with
  | true => rfl
  | false => simpa using head?_intercalate h

theorem body_ofBody {abs : Bool} {body : List (List Char)} (h : ∀ piece ∈ body, IsStep piece) :
    (ofBody abs body).body = if body = [] then [[]] else body := by
  have hpieces : pieces (['/'].intercalate body) = if body = [] then [[]] else body := by
    by_cases hb : body = []
    · simp [hb, pieces]
    · rw [if_neg hb, pieces_intercalate hb fun piece hp => (h piece hp).no_slash]
  unfold Path.body
  rw [text_ofBody]
  cases abs with
  | true => exact hpieces
  | false =>
    have hhead := head?_intercalate h
    simp only [Bool.false_eq_true, if_false, List.nil_append]
    split
    · next heq => simp [heq] at hhead
    · exact hpieces

theorem startsHere_ofBody {abs : Bool} {body : List (List Char)} (h : ∀ piece ∈ body, IsStep piece) :
    (ofBody abs body).startsHere = false := by
  rw [startsHere, body_ofBody h]
  split
  · simp
  · next hb =>
    obtain ⟨b, bs, rfl⟩ := List.exists_cons_of_ne_nil hb
    have := (h b (by simp)).not_idle
    simp only [idle, Bool.or_eq_false_iff, beq_eq_false_iff_ne] at this
    simp [this.2]

theorem filter_busy {body : List (List Char)} (h : ∀ piece ∈ body, IsStep piece) :
    (body.filter fun piece => !idle piece) = body :=
  List.filter_eq_self.2 fun piece hp => by simp [(h piece hp).not_idle]

theorem filter_body_ofBody {abs : Bool} {body : List (List Char)} (h : ∀ piece ∈ body, IsStep piece) :
    ((ofBody abs body).body.filter fun piece => !idle piece) = body := by
  rw [body_ofBody h]
  split
  · next hb => simp [hb, idle]
  · exact filter_busy h

theorem components_ofBody {abs : Bool} {body : List (List Char)} (h : ∀ piece ∈ body, IsStep piece) :
    (ofBody abs body).components = (if abs then [.root] else []) ++ body.map .ofPiece := by
  unfold components
  rw [isAbsolute_ofBody h, startsHere_ofBody h, filter_body_ofBody h]
  cases abs <;> rfl

theorem child_ofBody {abs : Bool} {body : List (List Char)} (h : ∀ piece ∈ body, IsStep piece)
    {name : List Char} (hname : '/' ∉ name) :
    (ofBody abs body).child (String.ofList name) = ofBody abs (body ++ [name]) := by
  have hrel : (⟨String.ofList name⟩ : Path).isAbsolute = false := by
    rw [isAbsolute, String.toList_ofList]
    cases name with
    | nil => rfl
    | cons c cs =>
      have : c ≠ '/' := fun hc => hname (by simp [hc])
      simpa using this
  rw [child, join, hrel, if_neg (by simp)]
  by_cases hb : body = []
  · subst hb
    cases abs <;> simp [ofBody]
  · obtain ⟨c, hc, hslash⟩ := getLast?_intercalate hb h
    have hlast : (ofBody abs body).text.toList.getLast? = some c := by
      rw [text_ofBody, List.getLast?_append, hc]
      rfl
    have hempty : (ofBody abs body).text.isEmpty = false := by
      rw [Bool.eq_false_iff, ne_eq, String.isEmpty_iff]
      intro he
      simp [he] at hlast
    rw [if_neg (by simp [hempty, hlast, hslash])]
    congr 1
    rw [← String.toList_inj]
    simp [intercalate_concat hb, ofBody]

/-! ## The normal form -/

/-- A path in normal form. -/
def Normal (p : Path) : Prop := ∃ abs body, Clean abs body ∧ p = ofBody abs body

theorem ofComponents_clean {abs : Bool} {body : List (List Char)} (h : ∀ piece ∈ body, IsStep piece) :
    ofComponents ((if abs then [.root] else []) ++ body.map .ofPiece) = ofBody abs body := by
  obtain ⟨n, hn⟩ : ∃ n, body.length = n := ⟨_, rfl⟩
  induction n generalizing body with
  | zero =>
    rw [List.eq_nil_of_length_eq_zero hn]
    cases abs <;> rfl
  | succ n ih =>
    obtain ⟨before, last, rfl⟩ : ∃ before last, body = before ++ [last] :=
      ⟨_, _, (List.dropLast_concat_getLast (List.ne_nil_of_length_eq_add_one hn)).symm⟩
    have hbefore : ∀ piece ∈ before, IsStep piece := fun piece hp => h piece (by simp [hp])
    have ih := ih hbefore (by simpa using hn)
    unfold ofComponents at ih ⊢
    rw [List.map_append, ← List.append_assoc, List.foldl_append, ih]
    have hlast := h last (by simp)
    have htext : (Component.ofPiece last).text = String.ofList last := by
      rcases hlast with rfl | hlast
      · rfl
      · rw [hlast.ofPiece]
        rfl
    simp only [List.map_cons, List.map_nil, List.foldl_cons, List.foldl_nil, htext]
    exact child_ofBody hbefore hlast.no_slash

/-- The steps of a clean body, the last one first. -/
def back (abs : Bool) (body : List (List Char)) : List Component :=
  ((if abs then [Component.root] else []) ++ body.map Component.ofPiece).reverse

theorem back_concat (abs : Bool) (body : List (List Char)) (piece : List Char) :
    back abs (body ++ [piece]) = .ofPiece piece :: back abs body := by
  simp [back]

theorem Clean.of_append {abs : Bool} {body more : List (List Char)} (h : Clean abs (body ++ more)) :
    Clean abs body := by
  obtain ⟨k, names, he, hk, hnames⟩ := h.out
  rcases List.append_eq_append_iff.1 he with ⟨ups, hu, -⟩ | ⟨front, rfl, hf⟩
  · obtain ⟨-, hbody, -⟩ := List.append_eq_replicate_iff.1 hu.symm
    refine ⟨body.length, [], by rw [← hbody]; simp, fun ha => ?_, by simp⟩
    have := congrArg List.length hu
    simp only [hk ha, List.length_replicate, List.length_append] at this
    omega
  · exact ⟨k, front, rfl, hk, fun name hn => hnames name (by simp [hf, hn])⟩

theorem walk_back_of_clean {abs : Bool} {body : List (List Char)} {piece : List Char}
    (h : Clean abs (body ++ [piece])) :
    walk (back abs body) (.ofPiece piece) = back abs (body ++ [piece]) := by
  rw [back_concat]
  rcases h.isStep piece (by simp) with rfl | hp
  · obtain ⟨k, names, he, hk, hnames⟩ := h.out
    obtain rfl : names = [] := by
      by_contra hne
      have hlast := congrArg List.getLast? he
      rw [List.getLast?_append_of_ne_nil _ hne, List.getLast?_concat] at hlast
      exact (hnames _ (List.mem_of_getLast? hlast.symm)).ne_dots rfl
    rw [List.append_nil] at he
    cases abs with
    | true => simp [hk rfl] at he
    | false =>
      obtain ⟨-, hbody, -⟩ := List.append_eq_replicate_iff.1 he
      rw [hbody]
      cases body.length <;> simp [back, Component.ofPiece, walk, List.replicate_succ']
  · rw [hp.ofPiece]
    rfl

theorem walk_back {abs : Bool} {body : List (List Char)} (h : Clean abs body) {piece : List Char}
    (hp : IsStep piece) :
    ∃ after, Clean abs after ∧ walk (back abs body) (.ofPiece piece) = back abs after := by
  rcases hp with rfl | hp
  · obtain ⟨k, names, rfl, hk, hnames⟩ := h.out
    rcases List.eq_nil_or_concat' names with rfl | ⟨before, last, rfl⟩
    · cases abs with
      | true => exact ⟨_, h, by simp [hk rfl, back, Component.ofPiece, walk]⟩
      | false =>
        refine ⟨List.replicate (k + 1) ['.', '.'], ⟨k + 1, [], by simp, by simp, by simp⟩, ?_⟩
        rw [List.replicate_succ', back_concat]
        cases k <;> simp [back, Component.ofPiece, walk, List.replicate_succ']
    · have hlast := hnames last (by simp)
      refine ⟨_, ⟨k, before, rfl, hk, fun name hn => hnames name (by simp [hn])⟩, ?_⟩
      rw [← List.append_assoc, back_concat, hlast.ofPiece]
      rfl
  · have hmore : Clean abs (body ++ [piece]) := h.append (by simpa using hp)
    exact ⟨_, hmore, walk_back_of_clean hmore⟩

theorem foldl_walk_of_clean {abs : Bool} {body more : List (List Char)} (h : Clean abs (body ++ more)) :
    (more.map Component.ofPiece).foldl walk (back abs body) = back abs (body ++ more) := by
  induction more generalizing body with
  | nil => simp
  | cons piece more ih =>
    rw [List.append_cons] at h ⊢
    rw [List.map_cons, List.foldl_cons, walk_back_of_clean h.of_append, ih h]

theorem foldl_walk {abs : Bool} {body more : List (List Char)} (h : Clean abs body)
    (hmore : ∀ piece ∈ more, IsStep piece) :
    ∃ after, Clean abs after ∧ (more.map Component.ofPiece).foldl walk (back abs body) = back abs after := by
  induction more generalizing body with
  | nil => exact ⟨body, h, rfl⟩
  | cons piece more ih =>
    obtain ⟨after, hafter, he⟩ := walk_back h (hmore piece (by simp))
    rw [List.map_cons, List.foldl_cons, he]
    exact ih hafter fun piece hp => hmore piece (by simp [hp])

theorem clean_nil (abs : Bool) : Clean abs [] := clean_of_isName (by simp)

theorem foldl_components (p : Path) :
    p.components.foldl walk [] =
      ((p.body.filter fun piece => !idle piece).map Component.ofPiece).foldl walk
        (back p.isAbsolute []) := by
  unfold components
  by_cases ha : p.isAbsolute
  · simp [ha, back, walk]
  · by_cases hh : p.startsHere
    · simp [ha, hh, back, walk]
    · simp [ha, hh, back]

theorem isStep_of_mem_body {p : Path} {piece : List Char}
    (h : piece ∈ p.body.filter fun piece => !idle piece) : IsStep piece := by
  rw [List.mem_filter] at h
  exact isStep_of_not_idle (slash_not_mem_body p piece h.1) (by simpa using h.2)

theorem exists_normal_eq (p : Path) : ∃ body, Clean p.isAbsolute body ∧ p.normal = ofBody p.isAbsolute body := by
  obtain ⟨body, hbody, he⟩ := foldl_walk (clean_nil p.isAbsolute) fun _ => isStep_of_mem_body (p := p)
  refine ⟨body, hbody, ?_⟩
  rw [normal, foldl_components, he, back, List.reverse_reverse, ofComponents_clean hbody.isStep]

theorem normal_normal (p : Path) : p.normal.Normal := by
  obtain ⟨body, hbody, he⟩ := exists_normal_eq p
  exact ⟨_, body, hbody, he⟩

@[simp] theorem isAbsolute_normal (p : Path) : p.normal.isAbsolute = p.isAbsolute := by
  obtain ⟨body, hbody, he⟩ := exists_normal_eq p
  rw [he, isAbsolute_ofBody hbody.isStep]

theorem Normal.normal_eq {p : Path} (h : p.Normal) : p.normal = p := by
  obtain ⟨abs, body, hbody, rfl⟩ := h
  rw [normal, foldl_components, isAbsolute_ofBody hbody.isStep, filter_body_ofBody hbody.isStep,
    foldl_walk_of_clean (by simpa using hbody), List.nil_append, back, List.reverse_reverse,
    ofComponents_clean hbody.isStep]

theorem Normal.eq_of_same {p q : Path} (hp : p.Normal) (hq : q.Normal) (h : p.same q) : p = q := by
  have hc : p.components = q.components := by simpa [same] using h
  rw [← hp.normal_eq, ← hq.normal_eq, normal, normal, hc]

theorem same_self (p : Path) : p.same p := by simp [same]

theorem Normal.same_iff {p q : Path} (hp : p.Normal) (hq : q.Normal) : p.same q ↔ p = q :=
  ⟨hp.eq_of_same hq, fun h => h ▸ same_self p⟩

theorem Normal.child {p : Path} (hp : p.Normal) {name : List Char} (hname : IsName name) :
    (p.child (String.ofList name)).Normal := by
  obtain ⟨abs, body, hbody, rfl⟩ := hp
  exact ⟨abs, body ++ [name], hbody.append (by simpa using hname),
    child_ofBody hbody.isStep hname.no_slash⟩

/-! ## Absolute paths -/

theorem isAbsolute_append {p : Path} (hp : p.isAbsolute) (more : String) :
    (⟨p.text ++ more⟩ : Path).isAbsolute := by
  unfold isAbsolute at hp ⊢
  rw [String.toList_append, List.head?_append]
  simp_all

theorem isAbsolute_join {p : Path} (hp : p.isAbsolute) (q : Path) : (p.join q).isAbsolute := by
  unfold join
  split
  · assumption
  · split
    · exact isAbsolute_append hp _
    · rw [String.append_assoc]
      exact isAbsolute_append hp _

theorem isAbsolute_child {p : Path} (hp : p.isAbsolute) (name : String) : (p.child name).isAbsolute :=
  isAbsolute_join hp _

theorem isAbsolute_parent {p q : Path} (hp : p.isAbsolute) (h : p.parent? = some q) : q.isAbsolute := by
  unfold parent? at h
  rw [if_neg (by simp [startsHere, hp])] at h
  split at h
  · cases h
  · cases h
    rw [hp, isAbsolute, text_ofBody]
    rfl

theorem isAbsolute_ancestorsWithin {n : Nat} {p : Path} (hp : p.isAbsolute) :
    ∀ q ∈ ancestorsWithin n p, q.isAbsolute := by
  induction n generalizing p with
  | zero => simp [ancestorsWithin]
  | succ n ih =>
    rw [ancestorsWithin]
    split
    · next parent hparent =>
      rw [List.forall_mem_cons]
      exact ⟨hp, ih (isAbsolute_parent hp hparent)⟩
    · simpa using hp

/-- The one path of a place. -/
structure Canonical (p : Path) : Prop where
  normal : p.Normal
  isAbsolute : p.isAbsolute

theorem canonical_of_normal_eq {p : Path} (ha : p.isAbsolute) (h : p.normal = p) : p.Canonical :=
  ⟨h ▸ normal_normal p, ha⟩

theorem Normal.names {p : Path} (hp : p.Normal) (ha : p.isAbsolute) :
    ∃ body, (∀ piece ∈ body, IsName piece) ∧ p = ofBody true body := by
  obtain ⟨abs, body, hbody, rfl⟩ := hp
  rw [isAbsolute_ofBody hbody.isStep] at ha
  subst ha
  exact ⟨body, hbody.isName, rfl⟩

end Bundler.Path
