import Bundler.Chunk
import Bundler.Proofs.Table
import Bundler.Proofs.Trace
import Mathlib.Logic.Relation

/-!
# What a chunk holds

The closure of a module is what it leads to in the table, no more and no less; it exists unless
something on the way is asked for that the table does not know.
-/

namespace Bundler

/-- The module of `a` asks for `b`. -/
def Table.Asks (table : Table) (a b : String) : Prop :=
  ∃ m, table.find? a = some m ∧ b ∈ m.dependencies

/-- The module of `a` asks for `b`, directly or through others. -/
def Table.Leads (table : Table) : String → String → Prop := Relation.ReflTransGen table.Asks

namespace Chunk

variable {table : Table}

theorem asks_of_mem (hk : table.Keyed) (m : Known table) {id : String} (h : id ∈ m.1.dependencies) :
    table.Asks m.1.id id :=
  ⟨m.1, hk.find?_eq_some.2 ⟨m.2, rfl⟩, h⟩

theorem mem_dependencies_iff (hk : table.Keyed) {ids : List String} {next : List (Known table)}
    (h : ids.mapM table.find = .ok next) (id : String) : id ∈ ids ↔ ∃ d ∈ next, d.1.id = id := by
  rw [mapM_eq_ok_iff] at h
  induction h with
  | nil => simp
  | cons hd _ ih =>
    have := (hk.find?_eq_some.1 (Table.find_eq_ok.1 hd)).2
    simp [ih, this, eq_comm]

/-- What the reached modules ask for is reached or on the stack. -/
def Covered (reached : List String) (stack : List (Known table)) : Prop :=
  ∀ a ∈ reached, ∀ b, table.Asks a b → b ∈ reached ∨ ∃ m ∈ stack, m.1.id = b

theorem Covered.step (hk : table.Keyed) {reached : List String} {m : Known table}
    {stack next : List (Known table)} (hcov : Covered reached (m :: stack))
    (hnext : m.1.dependencies.mapM table.find = .ok next) :
    Covered (reached ++ [m.1.id])
      ((next.filter fun d => !(reached ++ [m.1.id]).contains d.1.id).reverse ++ stack) := by
  intro a ha b hab
  rw [List.mem_append, List.mem_singleton] at ha
  rcases ha with ha | rfl
  · rcases hcov a ha b hab with hb | ⟨k, hkm, hb⟩
    · exact .inl (by simp [hb])
    · rcases List.mem_cons.1 hkm with rfl | hkm
      · exact .inl (by simp [hb])
      · exact .inr ⟨k, by simp [hkm], hb⟩
  · obtain ⟨m', hm', hdep⟩ := hab
    rw [hk.find?_eq_some.2 ⟨m.2, rfl⟩] at hm'
    cases hm'
    obtain ⟨d, hd, hid⟩ := (mem_dependencies_iff hk hnext b).1 hdep
    by_cases hb : b ∈ reached ++ [m.1.id]
    · exact .inl hb
    · refine .inr ⟨d, ?_, hid⟩
      simp only [List.mem_append, List.mem_reverse, List.mem_filter]
      exact .inl ⟨hd, by simpa [hid] using hb⟩

/-- The rounds of a search, as an induction. -/
theorem reach_induct {motive : List String → List (Known table) → Prop}
    (nil : ∀ reached, motive reached [])
    (seen : ∀ reached m stack, m.1.id ∈ reached → motive reached stack → motive reached (m :: stack))
    (unknown : ∀ reached m stack e, m.1.id ∉ reached → m.1.dependencies.mapM table.find = .error e →
      motive reached (m :: stack))
    (more : ∀ reached m stack next, m.1.id ∉ reached → m.1.dependencies.mapM table.find = .ok next →
      motive (reached ++ [m.1.id])
        ((next.filter fun d => !(reached ++ [m.1.id]).contains d.1.id).reverse ++ stack) →
      motive reached (m :: stack))
    (reached : List String) (stack : List (Known table)) : motive reached stack := by
  induction reached, stack using reach.induct with
  | case1 reached => exact nil reached
  | case2 reached m stack hm ih => exact seen reached m stack (List.contains_iff_mem.1 hm) ih
  | case3 reached m stack hm e hnext =>
    exact unknown reached m stack e (by simpa using hm) (by simpa using hnext)
  | case4 reached m stack hm next hnext reached' ih =>
    exact more reached m stack next (by simpa using hm) (by simpa using hnext) ih

theorem reach_seen {reached : List String} {m : Known table} {stack : List (Known table)}
    (h : m.1.id ∈ reached) : reach table reached (m :: stack) = reach table reached stack := by
  rw [reach, dif_pos (by simpa using h)]

theorem reach_unknown {reached : List String} {m : Known table} {stack : List (Known table)} {e : Error}
    (h : m.1.id ∉ reached) (hnext : m.1.dependencies.mapM table.find = .error e) :
    reach table reached (m :: stack) = .error e := by
  rw [reach, dif_neg (by simpa using h), hnext]

theorem reach_more {reached : List String} {m : Known table} {stack next : List (Known table)}
    (h : m.1.id ∉ reached) (hnext : m.1.dependencies.mapM table.find = .ok next) :
    reach table reached (m :: stack) = reach table (reached ++ [m.1.id])
      ((next.filter fun d => !(reached ++ [m.1.id]).contains d.1.id).reverse ++ stack) := by
  rw [reach, dif_neg (by simpa using h), hnext]

theorem reach_nil (reached : List String) : reach table reached [] = .ok reached := by rw [reach]

theorem reach_ok (hk : table.Keyed) {reached out : List String} {stack : List (Known table)}
    (hcov : Covered reached stack) (h : reach table reached stack = .ok out) :
    (∀ a ∈ reached, a ∈ out) ∧ (∀ m ∈ stack, m.1.id ∈ out) ∧ ∀ a ∈ out, ∀ b, table.Asks a b → b ∈ out := by
  -- With nothing left on the stack, `Covered` says that what is reached is closed.
  induction reached, stack using reach_induct with
  | nil reached =>
    rw [reach_nil] at h
    cases h
    exact ⟨fun _ => id, by simp, by simpa [Covered] using hcov⟩
  | seen reached m stack hm ih =>
    have hcov' : Covered reached stack := by
      intro a ha b hab
      rcases hcov a ha b hab with hb | ⟨k, hkm, rfl⟩
      · exact .inl hb
      · rcases List.mem_cons.1 hkm with rfl | hkm
        · exact .inl hm
        · exact .inr ⟨k, hkm, rfl⟩
    obtain ⟨hreached, hstack, hclosed⟩ := ih hcov' (reach_seen hm ▸ h)
    refine ⟨hreached, ?_, hclosed⟩
    rw [List.forall_mem_cons]
    exact ⟨hreached _ hm, hstack⟩
  | unknown reached m stack e hm hnext =>
    rw [reach_unknown hm hnext] at h
    cases h
  | more reached m stack next hm hnext ih =>
    obtain ⟨hreached, hstack, hclosed⟩ := ih (hcov.step hk hnext) (reach_more hm hnext ▸ h)
    refine ⟨fun a ha => hreached a (by simp [ha]), ?_, hclosed⟩
    rw [List.forall_mem_cons]
    exact ⟨hreached _ (by simp), fun k hks => hstack k (by simp [hks])⟩

theorem reach_sound (hk : table.Keyed) {reached out : List String} {stack : List (Known table)}
    (h : reach table reached stack = .ok out) :
    ∀ b ∈ out, b ∈ reached ∨ ∃ m ∈ stack, table.Leads m.1.id b := by
  induction reached, stack using reach_induct with
  | nil reached =>
    rw [reach_nil] at h
    cases h
    exact fun b hb => .inl hb
  | seen reached m stack hm ih =>
    intro b hb
    rcases ih (reach_seen hm ▸ h) b hb with hb | ⟨k, hks, hb⟩
    · exact .inl hb
    · exact .inr ⟨k, by simp [hks], hb⟩
  | unknown reached m stack e hm hnext =>
    rw [reach_unknown hm hnext] at h
    cases h
  | more reached m stack next hm hnext ih =>
    intro b hb
    rcases ih (reach_more hm hnext ▸ h) b hb with hb | ⟨k, hks, hb⟩
    · rw [List.mem_append, List.mem_singleton] at hb
      rcases hb with hb | rfl
      · exact .inl hb
      · exact .inr ⟨m, by simp, .refl⟩
    · simp only [List.mem_append, List.mem_reverse, List.mem_filter] at hks
      rcases hks with ⟨hkn, -⟩ | hks
      · have hdep := (mem_dependencies_iff hk hnext k.1.id).2 ⟨k, hkn, rfl⟩
        exact .inr ⟨m, by simp, .head (asks_of_mem hk m hdep) hb⟩
      · exact .inr ⟨k, by simp [hks], hb⟩

theorem reach_error (hk : table.Keyed) {reached : List String} {stack : List (Known table)} {e : Error}
    (h : reach table reached stack = .error e) :
    ∃ m ∈ stack, ∃ a x, table.Leads m.1.id a ∧ table.Asks a x ∧ table.find? x = none ∧
      e = .unknownModule x := by
  induction reached, stack using reach_induct with
  | nil reached =>
    rw [reach_nil] at h
    cases h
  | seen reached m stack hm ih =>
    obtain ⟨k, hks, hrest⟩ := ih (reach_seen hm ▸ h)
    exact ⟨k, by simp [hks], hrest⟩
  | unknown reached m stack e' hm hnext =>
    rw [reach_unknown hm hnext] at h
    obtain rfl := Except.error.inj h
    obtain ⟨x, hx, hfind⟩ := exists_of_mapM_eq_error hnext
    obtain ⟨hnone, rfl⟩ := Table.find_eq_error.1 hfind
    exact ⟨m, by simp, m.1.id, x, .refl, asks_of_mem hk m hx, hnone, rfl⟩
  | more reached m stack next hm hnext ih =>
    obtain ⟨k, hks, a, x, hlead, hrest⟩ := ih (reach_more hm hnext ▸ h)
    simp only [List.mem_append, List.mem_reverse, List.mem_filter] at hks
    rcases hks with ⟨hkn, -⟩ | hks
    · have hdep := (mem_dependencies_iff hk hnext k.1.id).2 ⟨k, hkn, rfl⟩
      exact ⟨m, by simp, a, x, .head (asks_of_mem hk m hdep) hlead, hrest⟩
    · exact ⟨k, by simp [hks], a, x, hlead, hrest⟩

theorem mem_closure_iff (hk : table.Keyed) {m : Known table} {out : List String}
    (h : closure table m = .ok out) (id : String) : id ∈ out ↔ table.Leads m.1.id id := by
  constructor
  · intro hid
    rcases reach_sound hk h id hid with hid | ⟨k, hks, hid⟩
    · simp at hid
    · rw [List.mem_singleton] at hks
      exact hks ▸ hid
  · intro hlead
    obtain ⟨-, hstack, hclosed⟩ := reach_ok hk (by simp [Covered]) h
    induction hlead with
    | refl => exact hstack m (by simp)
    | tail _ hab ih => exact hclosed _ ih _ hab

/-! ## Chunks -/

theorem assemble_ok (hk : table.Keyed) {name id : String} {chunk : Chunk}
    (h : assemble table name id = .ok chunk) :
    chunk.name = name ∧ table.find? id = some chunk.entry ∧ chunk.modules.Sublist table.modules ∧
      ∀ m, m ∈ chunk.modules ↔ m ∈ table.modules ∧ table.Leads id m.id := by
  unfold assemble at h
  obtain ⟨entry, hentry, h⟩ := bind_eq_ok.1 h
  obtain ⟨reached, hreached, h⟩ := bind_eq_ok.1 h
  cases h
  have hfind := Table.find_eq_ok.1 hentry
  refine ⟨rfl, hfind, List.filter_sublist, fun m => ?_⟩
  rw [List.mem_filter, List.contains_iff_mem, mem_closure_iff hk hreached, (hk.find?_eq_some.1 hfind).2]

theorem assemble_error (hk : table.Keyed) {name id : String} {e : Error}
    (h : assemble table name id = .error e) :
    ∃ x, table.find? x = none ∧ e = .unknownModule x ∧ (x = id ∨ ∃ a, table.Leads id a ∧ table.Asks a x) := by
  unfold assemble at h
  rcases bind_eq_error.1 h with h | ⟨entry, hentry, h⟩
  · obtain ⟨hnone, rfl⟩ := Table.find_eq_error.1 h
    exact ⟨id, hnone, rfl, .inl rfl⟩
  · rcases bind_eq_error.1 h with h | ⟨reached, -, h⟩
    · obtain ⟨m, hm, a, x, hlead, hasks, hnone, rfl⟩ := reach_error hk h
      rw [List.mem_singleton] at hm
      rw [hm, (hk.find?_eq_some.1 (Table.find_eq_ok.1 hentry)).2] at hlead
      exact ⟨x, hnone, rfl, .inr ⟨a, hlead, hasks⟩⟩
    · cases h

end Chunk
end Bundler
