import Bundler.Trace
import Mathlib.Data.List.Forall2

/-!
# What comes of work with a trace

What comes of a row of work is a row of what comes of each piece; the events do not matter for it.
-/

namespace Bundler

/-! ## Results in a row -/

theorem bind_eq_ok {ε α β : Type} {x : Except ε α} {f : α → Except ε β} {b : β} :
    x >>= f = .ok b ↔ ∃ a, x = .ok a ∧ f a = .ok b := by
  cases x <;> simp [bind, Except.bind]

theorem bind_eq_error {ε α β : Type} {x : Except ε α} {f : α → Except ε β} {e : ε} :
    x >>= f = .error e ↔ x = .error e ∨ ∃ a, x = .ok a ∧ f a = .error e := by
  cases x <;> simp [bind, Except.bind]

theorem mapM_eq_ok_iff {ε α β : Type} {f : α → Except ε β} {l : List α} {r : List β} :
    l.mapM f = .ok r ↔ List.Forall₂ (fun a b => f a = .ok b) l r := by
  induction l generalizing r with
  | nil =>
    rw [List.mapM_nil, List.forall₂_nil_left_iff]
    constructor
    · intro h; cases h; rfl
    · intro h; rw [h]; rfl
  | cons a l ih =>
    rw [List.mapM_cons, bind_eq_ok, List.forall₂_cons_left_iff]
    constructor
    · rintro ⟨b, hb, h⟩
      obtain ⟨bs, hbs, h⟩ := bind_eq_ok.1 h
      cases h
      exact ⟨b, bs, hb, ih.1 hbs, rfl⟩
    · rintro ⟨b, bs, hb, hbs, rfl⟩
      exact ⟨b, hb, bind_eq_ok.2 ⟨bs, ih.2 hbs, rfl⟩⟩

theorem mapM_eq_error_iff {ε α β : Type} {f : α → Except ε β} {l : List α} {e : ε} :
    l.mapM f = .error e ↔
      ∃ before a after, l = before ++ a :: after ∧ (∀ x ∈ before, ∃ b, f x = .ok b) ∧ f a = .error e := by
  induction l with
  | nil =>
    constructor
    · intro h; cases h
    · rintro ⟨before, a, after, h, -⟩; simp at h
  | cons a l ih =>
    rw [List.mapM_cons, bind_eq_error]
    constructor
    · rintro (h | ⟨b, hb, h⟩)
      · exact ⟨[], a, l, rfl, by simp, h⟩
      · obtain h | ⟨bs, -, h⟩ := bind_eq_error.1 h
        · obtain ⟨before, x, after, rfl, hbefore, hx⟩ := ih.1 h
          exact ⟨a :: before, x, after, rfl, List.forall_mem_cons.2 ⟨⟨b, hb⟩, hbefore⟩, hx⟩
        · cases h
    · rintro ⟨before, x, after, hl, hbefore, hx⟩
      cases before with
      | nil =>
        obtain ⟨rfl, rfl⟩ := List.cons.inj hl
        exact .inl hx
      | cons first before =>
        obtain ⟨rfl, rfl⟩ := List.cons.inj hl
        obtain ⟨⟨b, hb⟩, hbefore⟩ := List.forall_mem_cons.1 hbefore
        exact .inr ⟨b, hb, bind_eq_error.2 (.inl (ih.2 ⟨before, x, after, rfl, hbefore, hx⟩))⟩

theorem exists_of_mapM_eq_error {ε α β : Type} {f : α → Except ε β} {l : List α} {e : ε}
    (h : l.mapM f = .error e) : ∃ a ∈ l, f a = .error e := by
  obtain ⟨before, a, after, rfl, -, ha⟩ := mapM_eq_error_iff.1 h
  exact ⟨a, by simp, ha⟩

/-! ## Lists side by side -/

theorem exists_left_of_forall₂ {α β : Type} {R : α → β → Prop} {l : List α} {r : List β}
    (h : l.Forall₂ R r) {b : β} (hb : b ∈ r) : ∃ a ∈ l, R a b := by
  induction h with
  | nil => simp at hb
  | cons hab _ ih =>
    rcases List.mem_cons.1 hb with rfl | hb
    · exact ⟨_, by simp, hab⟩
    · obtain ⟨a, ha, hr⟩ := ih hb
      exact ⟨a, by simp [ha], hr⟩

theorem forall₂_imp_of_mem {α β : Type} {R Q : α → β → Prop} {l : List α} {r : List β} (h : l.Forall₂ R r)
    (himp : ∀ a ∈ l, ∀ b, R a b → Q a b) : l.Forall₂ Q r := by
  induction h with
  | nil => exact .nil
  | cons hab _ ih =>
    rw [List.forall_mem_cons] at himp
    exact .cons (himp.1 _ hab) (ih himp.2)

/-! ## Results of traces -/

namespace Trace

variable {ε α β : Type}

@[simp] theorem result_pure (a : α) : (pure a : Trace ε α).result = .ok a := rfl

@[simp] theorem result_fail (e : Error) : (fail e : Trace ε α).result = .error e := rfl

@[simp] theorem result_ofExcept (x : Except Error α) : (ofExcept x : Trace ε α).result = x := rfl

@[simp] theorem result_bind (t : Trace ε α) (f : α → Trace ε β) :
    (t >>= f).result = t.result >>= fun a => (f a).result := by
  show (t.andThen f).result = _
  unfold andThen
  cases t.result <;> rfl

theorem result_mapM_loop (f : α → Trace ε β) (l : List α) (done : List β) :
    (List.mapM.loop f l done).result = List.mapM.loop (fun a => (f a).result) l done := by
  induction l generalizing done with
  | nil => rfl
  | cons a l ih =>
    rw [List.mapM.loop, List.mapM.loop, result_bind]
    simp only [ih]

@[simp] theorem result_mapM (f : α → Trace ε β) (l : List α) :
    (l.mapM f).result = l.mapM fun a => (f a).result :=
  result_mapM_loop f l []

@[simp] theorem result_foldlM (f : β → α → Trace ε β) (l : List α) (b : β) :
    (l.foldlM f b).result = l.foldlM (fun b a => (f b a).result) b := by
  induction l generalizing b with
  | nil => rfl
  | cons a l ih =>
    rw [List.foldlM_cons, List.foldlM_cons, result_bind]
    simp only [ih]

/-! ## Work in a row -/

theorem ok_bind (events : List ε) (a : α) (f : α → Trace ε β) :
    (⟨events, .ok a⟩ : Trace ε α) >>= f = ⟨events ++ (f a).events, (f a).result⟩ := rfl

theorem error_bind (events : List ε) (e : Error) (f : α → Trace ε β) :
    (⟨events, .error e⟩ : Trace ε α) >>= f = ⟨events, .error e⟩ := rfl

theorem andThen_ret (t : Trace ε α) : t.andThen ret = t := by
  obtain ⟨events, result⟩ := t
  cases result <;> simp [andThen, ret]

theorem andThen_assoc {γ : Type} (t : Trace ε α) (f : α → Trace ε β) (g : β → Trace ε γ) :
    (t.andThen f).andThen g = t.andThen fun a => (f a).andThen g := by
  obtain ⟨events, result⟩ := t
  cases result with
  | error e => rfl
  | ok a => cases h : (f a).result <;> simp [andThen, h]

instance : LawfulMonad (Trace ε) := LawfulMonad.mk' (Trace ε) andThen_ret (fun _ _ => rfl) andThen_assoc

end Trace
end Bundler
