/-!
# Counting what is left

A search ends because each round strikes something off a finite list.
-/

namespace Bundler

/-- Where nothing new counts and one thing counts no more, the count goes down. -/
theorem countP_lt_countP {p q : α → Bool} {l : List α} (sub : ∀ x ∈ l, q x → p x) {a : α}
    (mem : a ∈ l) (hp : p a) (hq : ¬ q a) : l.countP q < l.countP p := by
  induction l with
  | nil => simp at mem
  | cons x xs ih =>
    have tail : xs.countP q ≤ xs.countP p :=
      List.countP_mono_left fun y hy => sub y (List.mem_cons_of_mem _ hy)
    simp only [List.countP_cons]
    rcases List.mem_cons.1 mem with rfl | mem
    · simp only [hp, hq]
      simp
      omega
    · have := ih (fun y hy => sub y (List.mem_cons_of_mem _ hy)) mem
      have : (if q x then 1 else 0) ≤ (if p x then 1 else 0) := by
        by_cases h : q x
        · simp [h, sub x List.mem_cons_self h]
        · simp [h]
      omega

end Bundler
