import Bundler.Module
import Mathlib.Data.List.Nodup

/-!
# Modules under their ids

Putting a value under a key changes what is found under that key alone. A table that is keyed by
the ids of its modules finds each of them under its id.
-/

namespace Bundler

/-! ## Pairs under keys -/

section Upsert
variable {κ α : Type} [DecidableEq κ]

theorem lookup_cons_eq_ite (k : κ) (v : α) (l : List (κ × α)) (x : κ) :
    ((k, v) :: l).lookup x = if x = k then some v else l.lookup x := by
  rw [List.lookup_cons]
  by_cases hx : x = k
  · simp [hx]
  · simp [beq_eq_false_iff_ne.2 hx, hx]

theorem mem_of_lookup {l : List (κ × α)} {k : κ} {v : α} (h : l.lookup k = some v) : (k, v) ∈ l := by
  obtain ⟨before, after, rfl, -⟩ := List.lookup_eq_some_iff.1 h
  simp

theorem lookup_of_mem {l : List (κ × α)} (hl : (l.map (·.1)).Nodup) {row : κ × α} (h : row ∈ l) :
    l.lookup row.1 = some row.2 := by
  obtain ⟨before, after, rfl⟩ := List.append_of_mem h
  refine List.lookup_eq_some_iff.2 ⟨before, after, rfl, fun other hother => ?_⟩
  rw [List.map_append, List.map_cons, List.nodup_append] at hl
  simpa using (hl.2.2 other.1 (List.mem_map.2 ⟨other, hother, rfl⟩) row.1 (by simp)).symm

theorem lookup_upsert (k : κ) (v : α) (l : List (κ × α)) (x : κ) :
    (upsert k v l).lookup x = if x = k then some v else l.lookup x := by
  induction l with
  | nil => rw [upsert, lookup_cons_eq_ite]
  | cons row rest ih =>
    obtain ⟨k', v'⟩ := row
    rw [upsert]
    by_cases hk : k' = k
    · subst hk
      rw [if_pos rfl, lookup_cons_eq_ite, lookup_cons_eq_ite]
      by_cases hx : x = k' <;> simp [hx]
    · rw [if_neg hk, lookup_cons_eq_ite, lookup_cons_eq_ite, ih]
      by_cases hx : x = k'
      · simp [hx, hk]
      · simp [hx]

theorem keys_upsert (k : κ) (v : α) (l : List (κ × α)) :
    (upsert k v l).map (·.1) = if k ∈ l.map (·.1) then l.map (·.1) else l.map (·.1) ++ [k] := by
  induction l with
  | nil => simp [upsert]
  | cons row rest ih =>
    obtain ⟨k', v'⟩ := row
    rw [upsert]
    by_cases hk : k' = k
    · simp [hk]
    · have hk' : ¬ k = k' := fun h => hk h.symm
      simp only [hk, if_false, List.map_cons, ih, List.mem_cons, hk', false_or]
      split <;> simp

theorem nodup_keys_upsert (k : κ) (v : α) {l : List (κ × α)} (h : (l.map (·.1)).Nodup) :
    ((upsert k v l).map (·.1)).Nodup := by
  rw [keys_upsert]
  split
  · exact h
  · next hk =>
    refine List.nodup_append.2 ⟨h, by simp, ?_⟩
    intro a ha b hb he
    rw [List.mem_singleton] at hb
    exact hk (hb ▸ he ▸ ha)

theorem mem_of_mem_upsert {k : κ} {v : α} {l : List (κ × α)} {row : κ × α} (h : row ∈ upsert k v l) :
    row = (k, v) ∨ row ∈ l := by
  induction l with
  | nil => simpa [upsert] using h
  | cons first rest ih =>
    obtain ⟨k', v'⟩ := first
    rw [upsert] at h
    split at h
    · next hk =>
      rcases List.mem_cons.1 h with rfl | h
      · exact .inl (by rw [hk])
      · exact .inr (List.mem_cons_of_mem _ h)
    · rcases List.mem_cons.1 h with rfl | h
      · exact .inr List.mem_cons_self
      · exact (ih h).imp id (List.mem_cons_of_mem _)

theorem upsert_of_not_mem {k : κ} (v : α) {l : List (κ × α)} (h : k ∉ l.map (·.1)) :
    upsert k v l = l ++ [(k, v)] := by
  induction l with
  | nil => rfl
  | cons row rest ih =>
    obtain ⟨k', v'⟩ := row
    simp only [List.map_cons, List.mem_cons, not_or] at h
    rw [upsert, if_neg fun he => h.1 he.symm, ih h.2]
    rfl

end Upsert

/-! ## Tables -/

namespace Table

/-- Every module stands under its id, and under no other key. -/
structure Keyed (table : Table) : Prop where
  nodup : (table.map (·.1)).Nodup
  key_eq : ∀ row ∈ table, row.1 = row.2.id

variable {table : Table}

theorem Keyed.find?_eq_some (hk : table.Keyed) {id : String} {m : Module} :
    table.find? id = some m ↔ m ∈ table.modules ∧ m.id = id := by
  constructor
  · intro h
    have hmem := mem_of_lookup h
    exact ⟨List.mem_map.2 ⟨_, hmem, rfl⟩, (hk.key_eq _ hmem).symm⟩
  · rintro ⟨hm, rfl⟩
    obtain ⟨row, hrow, rfl⟩ := List.mem_map.1 hm
    rw [find?, ← hk.key_eq row hrow]
    exact lookup_of_mem hk.nodup hrow

theorem find_eq_ok {id : String} {m : { m : Module // m ∈ table.modules }} :
    table.find id = .ok m ↔ table.find? id = some m.1 := by
  unfold find
  split
  · next m' h =>
    simp only [Except.ok.injEq, Subtype.ext_iff]
    exact ⟨fun he => he ▸ h, fun he => Option.some.inj (h.symm.trans he)⟩
  · next h => simp [h]

theorem find_eq_error {id : String} {e : Error} :
    table.find id = .error e ↔ table.find? id = none ∧ e = .unknownModule id := by
  unfold find
  split
  · next m' h => simp [h]
  · next h => simp [h, eq_comm]

end Table
end Bundler
