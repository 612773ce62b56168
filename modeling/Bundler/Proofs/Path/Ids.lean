import Bundler.Proofs.Path.Normal

/-!
# Ids tell files apart

The way from one absolute path to another goes up to what they have in common and then down by
names. An id spells that way out, and without backslashes in names it can be read back.
-/

namespace Bundler.Path

/-- The piece that leads to the folder above. -/
abbrev up : List Char := ['.', '.']

/-! ## Where two paths part -/

/-- `common` is the longest beginning of both lists, with `ahead` and `behind` after it. -/
structure Fork (as bs common ahead behind : List Component) : Prop where
  left : as = common ++ ahead
  right : bs = common ++ behind
  longest : ∀ other, other <+: as → other <+: bs → other <+: common

theorem diverge_append (as bs : List Component) :
    ∃ common, as = common ++ (diverge as bs).1 ∧ bs = common ++ (diverge as bs).2 := by
  induction as generalizing bs with
  | nil => exact ⟨[], by simp [diverge]⟩
  | cons a as ih =>
    cases bs with
    | nil => exact ⟨[], by simp [diverge]⟩
    | cons b bs =>
      rw [diverge]
      split
      · next h =>
        obtain ⟨common, has, hbs⟩ := ih bs
        exact ⟨a :: common, by rw [List.cons_append, ← has], by rw [List.cons_append, ← hbs, h]⟩
      · exact ⟨[], rfl, rfl⟩

theorem length_add_diverge_le {as bs other : List Component} (hleft : other <+: as) (hright : other <+: bs) :
    other.length + (diverge as bs).1.length ≤ as.length := by
  induction other generalizing as bs with
  | nil =>
    obtain ⟨common, hcommon, -⟩ := diverge_append as bs
    have hlength := congrArg List.length hcommon
    simp only [List.length_append] at hlength
    simp only [List.length_nil]
    omega
  | cons step other ih =>
    obtain ⟨as, rfl, has⟩ := List.cons_prefix_iff.1 hleft
    obtain ⟨bs, rfl, hbs⟩ := List.cons_prefix_iff.1 hright
    have hrest := ih has hbs
    simp only [diverge, if_true, List.length_cons]
    omega

theorem exists_fork_diverge (as bs : List Component) :
    ∃ common, Fork as bs common (diverge as bs).1 (diverge as bs).2 := by
  obtain ⟨common, has, hbs⟩ := diverge_append as bs
  refine ⟨common, has, hbs, fun other hleft hright => ?_⟩
  have hlength := congrArg List.length has
  rw [List.length_append] at hlength
  have hle := length_add_diverge_le hleft hright
  exact List.prefix_of_prefix_length_le hleft ⟨_, has.symm⟩ (by omega)

theorem Fork.behind_eq_nil {as bs common ahead behind : List Component} (h : Fork as bs common ahead behind)
    (hstart : bs <+: as) : behind = [] := by
  have hle := (h.longest bs hstart List.prefix_rfl).length_le
  rw [h.right, List.length_append] at hle
  exact List.eq_nil_of_length_eq_zero (by omega)

theorem map_ofPiece_inj {a b : List (List Char)} (ha : ∀ piece ∈ a, IsName piece) (hb : ∀ piece ∈ b, IsName piece)
    (h : a.map Component.ofPiece = b.map Component.ofPiece) : a = b := by
  have hnames : ∀ l : List (List Char), (∀ piece ∈ l, IsName piece) →
      l.map Component.ofPiece = l.map fun piece => .name (String.ofList piece) :=
    fun l hl => List.map_congr_left fun piece hp => (hl piece hp).ofPiece
  rw [hnames a ha, hnames b hb] at h
  refine (List.map_injective_iff.2 fun x y hxy => ?_) h
  simpa using congrArg String.toList (Component.name.inj hxy)

theorem exists_fork_names {a r : List (List Char)} (ha : ∀ piece ∈ a, IsName piece) (hr : ∀ piece ∈ r, IsName piece) :
    ∃ common ahead behind, a = common ++ ahead ∧ r = common ++ behind ∧
      Fork (.root :: a.map .ofPiece) (.root :: r.map .ofPiece) (.root :: common.map .ofPiece)
        (ahead.map .ofPiece) (behind.map .ofPiece) ∧
      diverge (.root :: a.map .ofPiece) (.root :: r.map .ofPiece) = (ahead.map .ofPiece, behind.map .ofPiece) := by
  obtain ⟨both, hfork⟩ := exists_fork_diverge (.root :: a.map .ofPiece) (.root :: r.map .ofPiece)
  obtain ⟨both, rfl, -⟩ := List.cons_prefix_iff.1 (hfork.longest [.root] (by simp) (by simp))
  obtain ⟨common, ahead, rfl, rfl, hahead⟩ := List.map_eq_append_iff.1 (List.cons.inj hfork.left).2
  obtain ⟨common', behind, rfl, hcommon, hbehind⟩ := List.map_eq_append_iff.1 (List.cons.inj hfork.right).2
  obtain rfl : common' = common := map_ofPiece_inj (fun piece hp => hr piece (by simp [hp]))
    (fun piece hp => ha piece (by simp [hp])) hcommon
  rw [← hahead, ← hbehind] at hfork
  exact ⟨common', ahead, behind, rfl, rfl, hfork, Prod.ext hahead.symm hbehind.symm⟩

/-! ## The way between two paths -/

theorem isStep_of_mem_way {n : Nat} {names : List (List Char)} (h : ∀ piece ∈ names, IsName piece) :
    ∀ piece ∈ List.replicate n up ++ names, IsStep piece := by
  intro piece hp
  rcases List.mem_append.1 hp with hp | hp
  · exact .inl (List.mem_replicate.1 hp).2
  · exact .inr (h piece hp)

theorem ofComponents_way {names : List (List Char)} (h : ∀ piece ∈ names, IsName piece) (n : Nat) :
    ofComponents (List.replicate n .up ++ names.map .ofPiece) = ofBody false (List.replicate n up ++ names) := by
  have hway : List.replicate n .up ++ names.map .ofPiece = (List.replicate n up ++ names).map Component.ofPiece := by
    rw [List.map_append, List.map_replicate]
    rfl
  rw [hway, ← ofComponents_clean (isStep_of_mem_way h)]
  rfl

theorem dropSteps_of_isName {body : List (List Char)} (h : ∀ piece ∈ body, IsName piece) (n : Nat) :
    dropSteps n body = body.drop n := by
  induction body generalizing n with
  | nil => simp [dropSteps]
  | cons piece body ih =>
    rw [List.forall_mem_cons] at h
    cases n with
    | zero => simp [dropSteps, h.1.not_idle]
    | succ n => simpa [dropSteps, h.1.not_idle] using ih h.2 n

theorem trimEnd_of_isName {body : List (List Char)} (h : ∀ piece ∈ body, IsName piece) : trimEnd body = body := by
  rcases List.eq_nil_or_concat' body with rfl | ⟨before, last, rfl⟩
  · rfl
  · rw [trimEnd, List.reverse_append, List.reverse_singleton, List.singleton_append, List.dropWhile_cons,
      (h last (by simp)).not_idle]
    simp

theorem components_of_isName {a : List (List Char)} (ha : ∀ piece ∈ a, IsName piece) :
    (ofBody true a).components = .root :: a.map .ofPiece :=
  components_ofBody fun piece hp => .inr (ha piece hp)

theorem strip?_ofBody {a r : List (List Char)} (ha : ∀ piece ∈ a, IsName piece) (hr : ∀ piece ∈ r, IsName piece) :
    strip? (ofBody true r) (ofBody true a) =
      if r.map Component.ofPiece <+: a.map Component.ofPiece then some (ofBody false (a.drop r.length)) else none := by
  have hsteps : ∀ piece ∈ a, IsStep piece := fun piece hp => .inr (ha piece hp)
  rw [strip?, components_of_isName ha, components_of_isName hr, isAbsolute_ofBody hsteps]
  simp only [List.isPrefixOf_iff_prefix, List.cons_prefix_cons, true_and, List.isEmpty_cons, Bool.false_eq_true,
    if_false, Bool.true_or, if_true, List.length_cons, List.length_map, Nat.add_sub_cancel]
  have hdrop : trimEnd (dropSteps r.length (ofBody true a).body) = a.drop r.length := by
    rw [body_ofBody hsteps]
    split
    · next h =>
      rw [h]
      cases r.length <;> rfl
    · rw [dropSteps_of_isName ha, trimEnd_of_isName fun piece hp => ha piece (List.mem_of_mem_drop hp)]
  rw [hdrop]

theorem relative_ofBody {a r : List (List Char)} (ha : ∀ piece ∈ a, IsName piece) (hr : ∀ piece ∈ r, IsName piece) :
    ∃ common ahead behind, a = common ++ ahead ∧ r = common ++ behind ∧
      (ofBody true a).relative (ofBody true r) = ofBody false (List.replicate behind.length up ++ ahead) := by
  obtain ⟨common, ahead, behind, rfl, rfl, hfork, hdiverge⟩ := exists_fork_names ha hr
  refine ⟨common, ahead, behind, rfl, rfl, ?_⟩
  rw [relative, strip?_ofBody ha hr]
  split_ifs with hstart
  · obtain rfl : behind = [] :=
      List.map_eq_nil_iff.1 (hfork.behind_eq_nil (List.cons_prefix_cons.2 ⟨rfl, hstart⟩))
    simp
  · rw [components_of_isName ha, components_of_isName hr, hdiverge,
      ← ofComponents_way (fun piece hp => ha piece (by simp [hp])) behind.length]
    simp [Function.comp_def, List.map_const']

/-! ## Ids -/

theorem trimHere_intercalate {steps : List (List Char)} (h : ∀ piece ∈ steps, IsStep piece) :
    trimHere (['/'].intercalate steps) = ['/'].intercalate steps := by
  unfold trimHere
  split
  · next rest he =>
    have hne : steps ≠ [] := by
      rintro rfl
      simp at he
    have hpieces := pieces_intercalate hne fun piece hp => (h piece hp).no_slash
    rw [he] at hpieces
    have hdot : ['.'] ∈ steps := by
      rw [← hpieces]
      simp [pieces]
    exact absurd (h _ hdot).not_idle (by decide)
  · rfl

theorem intercalate_inj {a b : List (List Char)} (ha : ∀ piece ∈ a, IsStep piece) (hb : ∀ piece ∈ b, IsStep piece)
    (h : ['/'].intercalate a = ['/'].intercalate b) : a = b := by
  have hnil : ∀ l : List (List Char), (∀ piece ∈ l, IsStep piece) → ['/'].intercalate l = [] → l = [] := by
    intro l hl hempty
    by_contra hne
    obtain ⟨c, hc, -⟩ := getLast?_intercalate hne hl
    simp [hempty] at hc
  by_cases hane : a = []
  · rw [hane, hnil b hb (by simpa [hane] using h.symm)]
  · have hbne : b ≠ [] := fun hbe => hane (hnil a ha (by simpa [hbe] using h))
    rw [← pieces_intercalate hane fun piece hp => (ha piece hp).no_slash, h,
      pieces_intercalate hbne fun piece hp => (hb piece hp).no_slash]

theorem replicate_up_inj {j k : Nat} {a b : List (List Char)} (ha : ∀ piece ∈ a, IsName piece)
    (hb : ∀ piece ∈ b, IsName piece) (h : List.replicate j up ++ a = List.replicate k up ++ b) : j = k ∧ a = b := by
  induction j generalizing k with
  | zero =>
    cases k with
    | zero => exact ⟨rfl, by simpa using h⟩
    | succ k =>
      have hup : up ∈ a := by
        rw [List.replicate_zero, List.nil_append] at h
        simp [h, List.replicate_succ]
      exact absurd rfl (ha up hup).ne_dots
  | succ j ih =>
    cases k with
    | zero =>
      have hup : up ∈ b := by
        rw [List.replicate_zero, List.nil_append] at h
        simp [← h, List.replicate_succ]
      exact absurd rfl (hb up hup).ne_dots
    | succ k =>
      obtain ⟨rfl, hab⟩ := ih (by simpa [List.replicate_succ] using h)
      exact ⟨rfl, hab⟩

theorem mem_of_mem_intercalate {c : Char} {steps : List (List Char)} (h : c ∈ ['/'].intercalate steps) :
    c = '/' ∨ ∃ piece ∈ steps, c ∈ piece := by
  induction steps with
  | nil => simp at h
  | cons piece steps ih =>
    cases steps with
    | nil => exact .inr ⟨piece, by simp, by simpa using h⟩
    | cons next steps =>
      rw [List.intercalate_cons_of_ne_nil (by simp), List.mem_append, List.mem_append, List.mem_singleton] at h
      rcases h with (h | h) | h
      · exact .inr ⟨piece, by simp, h⟩
      · exact .inl h
      · rcases ih h with h | ⟨other, hother, hc⟩
        · exact .inl h
        · exact .inr ⟨other, by simp [hother], hc⟩

theorem unix_of_not_mem {p : Path} (h : '\\' ∉ p.text.toList) : p.unix = p.text := by
  have hmap : (p.text.toList.map fun c => if c = '\\' then '/' else c) = p.text.toList.map id :=
    List.map_congr_left fun c hc => if_neg fun (he : c = '\\') => h (he ▸ hc)
  rw [unix, hmap, List.map_id, String.ofList_toList]

/-- The way from `root` to a path is spelled without a backslash. -/
def Clear (root p : Path) : Prop := '\\' ∉ (p.relative root).text.toList

theorem clear_ofBody {root : Path} (hroot : root.Canonical) {a : List (List Char)}
    (ha : ∀ piece ∈ a, IsName piece ∧ '\\' ∉ piece) : Clear root (ofBody true a) := by
  obtain ⟨r, hr, rfl⟩ := hroot.normal.names hroot.isAbsolute
  obtain ⟨common, ahead, behind, rfl, rfl, hway⟩ := relative_ofBody (fun piece hp => (ha piece hp).1) hr
  rw [Clear, hway, text_ofBody]
  intro hmem
  rcases mem_of_mem_intercalate (by simpa using hmem) with h | ⟨piece, hp, hc⟩
  · exact absurd h (by decide)
  · rcases List.mem_append.1 hp with hp | hp
    · rw [(List.mem_replicate.1 hp).2] at hc
      exact absurd hc (by decide)
    · exact (ha piece (by simp [hp])).2 hc

/-- A way that starts with `../` is not shortened, so an id is cut the same way in both cases. -/
theorem toList_idFrom (root p : Path) :
    (idFrom root p).toList = '.' :: '/' :: trimHere (p.relative root).unix.toList := by
  unfold idFrom
  generalize (p.relative root).unix = way
  simp only
  split
  · next hup =>
    obtain ⟨rest, hrest⟩ := List.isPrefixOf_iff_prefix.1 hup
    have htrim : trimHere way.toList = way.toList := by
      rw [← hrest]
      rfl
    rw [htrim, String.toList_append]
    rfl
  · simp

theorem idFrom_ofBody {a r : List (List Char)} (ha : ∀ piece ∈ a, IsName piece) (hr : ∀ piece ∈ r, IsName piece)
    (hclear : Clear (ofBody true r) (ofBody true a)) :
    ∃ common ahead behind, a = common ++ ahead ∧ r = common ++ behind ∧
      (idFrom (ofBody true r) (ofBody true a)).toList =
        '.' :: '/' :: ['/'].intercalate (List.replicate behind.length up ++ ahead) := by
  obtain ⟨common, ahead, behind, rfl, rfl, hway⟩ := relative_ofBody ha hr
  refine ⟨common, ahead, behind, rfl, rfl, ?_⟩
  rw [toList_idFrom, unix_of_not_mem hclear, hway, text_ofBody]
  simpa using trimHere_intercalate (isStep_of_mem_way fun piece hp => ha piece (by simp [hp]))

/-- No two files have one id, whatever folder the ids are taken from. -/
theorem eq_of_idFrom_eq {root p q : Path} (hroot : root.Canonical) (hp : p.Canonical) (hq : q.Canonical)
    (hpclear : Clear root p) (hqclear : Clear root q) (h : idFrom root p = idFrom root q) : p = q := by
  obtain ⟨r, hr, rfl⟩ := hroot.normal.names hroot.isAbsolute
  obtain ⟨a, ha, rfl⟩ := hp.normal.names hp.isAbsolute
  obtain ⟨b, hb, rfl⟩ := hq.normal.names hq.isAbsolute
  obtain ⟨common, ahead, behind, rfl, rfl, hid⟩ := idFrom_ofBody ha hr hpclear
  obtain ⟨common', ahead', behind', rfl, hr', hid'⟩ := idFrom_ofBody hb hr hqclear
  rw [h, hid'] at hid
  have hahead : ∀ piece ∈ ahead, IsName piece := fun piece hp => ha piece (by simp [hp])
  have hahead' : ∀ piece ∈ ahead', IsName piece := fun piece hp => hb piece (by simp [hp])
  have hsame := intercalate_inj (isStep_of_mem_way hahead') (isStep_of_mem_way hahead) (by simpa using hid)
  -- As many steps up from one root: the two paths have the same beginning in common with it.
  obtain ⟨hlength, rfl⟩ := replicate_up_inj hahead' hahead hsame
  obtain ⟨rfl, -⟩ := List.append_inj' hr' hlength.symm
  rfl

end Bundler.Path
