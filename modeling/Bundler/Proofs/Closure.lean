import Bundler.Proofs.Chunk
import Mathlib.Data.List.Perm.Basic

/-!
# Chunks are exact

The search for a closure ends after at most one round for the entry and one for each dependency of
the table, however often a module stands on its stack. A chunk is found exactly where nothing that
the entry leads to is missing from the table, and then holds just that.
-/

namespace Bundler.Chunk

variable {table : Table}

/-! ## Rounds -/

/-- The rounds of a search: each takes one module from the stack. -/
inductive Searches (table : Table) : Nat → List String → List (Known table) → Except Error (List String) → Prop
  | ended (reached : List String) : Searches table 0 reached [] (.ok reached)
  | seen {n : Nat} {reached : List String} {m : Known table} {stack : List (Known table)}
      {result : Except Error (List String)} (hm : m.1.id ∈ reached) (h : Searches table n reached stack result) :
      Searches table (n + 1) reached (m :: stack) result
  | unknown {reached : List String} {m : Known table} (stack : List (Known table)) {e : Error}
      (hm : m.1.id ∉ reached) (hnext : m.1.dependencies.mapM table.find = .error e) :
      Searches table 1 reached (m :: stack) (.error e)
  | more {n : Nat} {reached : List String} {m : Known table} {stack next : List (Known table)}
      {result : Except Error (List String)} (hm : m.1.id ∉ reached)
      (hnext : m.1.dependencies.mapM table.find = .ok next)
      (h : Searches table n (reached ++ [m.1.id])
        ((next.filter fun d => !(reached ++ [m.1.id]).contains d.1.id).reverse ++ stack) result) :
      Searches table (n + 1) reached (m :: stack) result

/-- All that the modules of a list ask for which are not reached. -/
def pending (reached : List String) (ms : List Module) : List String :=
  (ms.filter fun m => !reached.contains m.id).flatMap (·.dependencies)

theorem pending_cons (reached : List String) (k : Module) (ms : List Module) :
    pending reached (k :: ms) = (if k.id ∈ reached then [] else k.dependencies) ++ pending reached ms := by
  by_cases hk : k.id ∈ reached <;> simp [pending, hk]

theorem length_pending_concat_le (reached : List String) (id : String) (ms : List Module) :
    (pending (reached ++ [id]) ms).length ≤ (pending reached ms).length := by
  induction ms with
  | nil => simp [pending]
  | cons k ms ih =>
    simp only [pending_cons, List.length_append, List.mem_append]
    by_cases hk : k.id ∈ reached
    · simpa [hk] using ih
    · rw [if_neg hk]
      split
      · simp only [List.length_nil]
        omega
      · omega

theorem length_pending_lt {reached : List String} {m : Module} (hm : m.id ∉ reached) {ms : List Module}
    (hmem : m ∈ ms) :
    (pending (reached ++ [m.id]) ms).length + m.dependencies.length ≤ (pending reached ms).length := by
  induction ms with
  | nil => simp at hmem
  | cons k ms ih =>
    simp only [pending_cons, List.length_append]
    rcases List.mem_cons.1 hmem with rfl | hmem
    · have hle := length_pending_concat_le reached m.id ms
      rw [if_pos (by simp), if_neg hm, List.length_nil]
      omega
    · have ih := ih hmem
      by_cases hk : k.id ∈ reached
      · rw [if_pos (by simp [hk]), if_pos hk, List.length_nil]
        omega
      · rw [if_neg hk]
        split
        · rw [List.length_nil]
          omega
        · omega

theorem length_of_mapM {ids : List String} {next : List (Known table)} (h : ids.mapM table.find = .ok next) :
    next.length = ids.length :=
  (mapM_eq_ok_iff.1 h).length_eq.symm

/-- What is left on the stack and what is pending bounds the rounds of a search. -/
theorem exists_searches (reached : List String) (stack : List (Known table)) :
    ∃ n ≤ stack.length + (pending reached table.modules).length,
      Searches table n reached stack (reach table reached stack) := by
  induction reached, stack using reach_induct with
  | nil reached =>
    rw [reach_nil]
    exact ⟨0, Nat.zero_le _, .ended reached⟩
  | seen reached m stack hm ih =>
    obtain ⟨n, hn, hrest⟩ := ih
    rw [reach_seen hm]
    refine ⟨n + 1, ?_, .seen hm hrest⟩
    rw [List.length_cons]
    omega
  | unknown reached m stack e hm hnext =>
    rw [reach_unknown hm hnext]
    refine ⟨1, ?_, .unknown stack hm hnext⟩
    rw [List.length_cons]
    omega
  | more reached m stack next hm hnext ih =>
    -- A module puts as many on the stack as it takes from what is pending, and leaves the stack itself.
    obtain ⟨n, hn, hrest⟩ := ih
    rw [reach_more hm hnext]
    refine ⟨n + 1, ?_, .more hm hnext hrest⟩
    have hpending := length_pending_lt hm m.2
    rw [List.length_append, List.length_reverse, Nat.add_assoc] at hn
    have hpushed := Nat.le_trans hn (Nat.add_le_add_right (List.length_filter_le _ _) _)
    rw [length_of_mapM hnext] at hpushed
    rw [List.length_cons]
    omega

/-! ## What is found -/

theorem nodup_reach {reached out : List String} {stack : List (Known table)} (hreached : reached.Nodup)
    (h : reach table reached stack = .ok out) : out.Nodup := by
  induction reached, stack using reach_induct with
  | nil reached =>
    rw [reach_nil] at h
    cases h
    exact hreached
  | seen reached m stack hm ih => exact ih hreached (reach_seen hm ▸ h)
  | unknown reached m stack e hm hnext =>
    rw [reach_unknown hm hnext] at h
    cases h
  | more reached m stack next hm hnext ih =>
    refine ih ?_ (reach_more hm hnext ▸ h)
    rw [← List.concat_eq_append]
    exact List.Nodup.concat hm hreached

theorem known_reach {reached out : List String} {stack : List (Known table)}
    (hreached : ∀ x ∈ reached, ∃ m ∈ table.modules, m.id = x) (h : reach table reached stack = .ok out) :
    ∀ x ∈ out, ∃ m ∈ table.modules, m.id = x := by
  induction reached, stack using reach_induct with
  | nil reached =>
    rw [reach_nil] at h
    cases h
    exact hreached
  | seen reached m stack hm ih => exact ih hreached (reach_seen hm ▸ h)
  | unknown reached m stack e hm hnext =>
    rw [reach_unknown hm hnext] at h
    cases h
  | more reached m stack next hm hnext ih =>
    refine ih ?_ (reach_more hm hnext ▸ h)
    intro x hx
    rw [List.mem_append, List.mem_singleton] at hx
    rcases hx with hx | rfl
    · exact hreached x hx
    · exact ⟨m.1, m.2, rfl⟩

theorem exists_closure {name id : String} {chunk : Chunk} (h : assemble table name id = .ok chunk) :
    ∃ entry reached, table.find id = .ok entry ∧ closure table entry = .ok reached := by
  unfold assemble at h
  obtain ⟨entry, hentry, h⟩ := bind_eq_ok.1 h
  obtain ⟨reached, hreached, -⟩ := bind_eq_ok.1 h
  exact ⟨entry, reached, hentry, hreached⟩

theorem nodup_ids (hk : table.Keyed) {name id : String} {chunk : Chunk}
    (h : assemble table name id = .ok chunk) : chunk.ids.Nodup := by
  obtain ⟨-, -, hsub, -⟩ := assemble_ok hk h
  have hkeys : table.modules.map (·.id) = table.map (·.1) := by
    rw [Table.modules, List.map_map]
    exact List.map_congr_left fun row hrow => (hk.key_eq row hrow).symm
  exact (hkeys ▸ hk.nodup).sublist (hsub.map _)

theorem perm_closure (hk : table.Keyed) {name id : String} {chunk : Chunk} {entry : Known table}
    {reached : List String} (h : assemble table name id = .ok chunk) (hentry : table.find id = .ok entry)
    (hreached : closure table entry = .ok reached) : reached.Perm chunk.ids := by
  refine (List.perm_ext_iff_of_nodup (nodup_reach List.nodup_nil hreached) (nodup_ids hk h)).2 fun x => ?_
  obtain ⟨-, -, -, hmem⟩ := assemble_ok hk h
  have hid : entry.1.id = id := (hk.find?_eq_some.1 (Table.find_eq_ok.1 hentry)).2
  constructor
  · intro hx
    obtain ⟨m, hm, rfl⟩ := known_reach (by simp) hreached x hx
    exact List.mem_map.2 ⟨m, (hmem m).2 ⟨hm, hid ▸ (mem_closure_iff hk hreached m.id).1 hx⟩, rfl⟩
  · intro hx
    obtain ⟨m, hm, rfl⟩ := List.mem_map.1 hx
    exact (mem_closure_iff hk hreached m.id).2 (hid.symm ▸ ((hmem m).1 hm).2)

theorem isSome_of_assemble (hk : table.Keyed) {name id : String} {chunk : Chunk}
    (h : assemble table name id = .ok chunk) {x : String} (hx : table.Leads id x) : (table.find? x).isSome := by
  obtain ⟨entry, reached, hentry, hreached⟩ := exists_closure h
  rw [← (hk.find?_eq_some.1 (Table.find_eq_ok.1 hentry)).2] at hx
  obtain ⟨m, hm, rfl⟩ := known_reach (by simp) hreached x ((mem_closure_iff hk hreached x).2 hx)
  rw [hk.find?_eq_some.2 ⟨hm, rfl⟩]
  rfl

theorem exists_assemble (hk : table.Keyed) (name : String) {id : String} (hentry : (table.find? id).isSome)
    (hdeps : ∀ m ∈ table.modules, table.Leads id m.id → ∀ x ∈ m.dependencies, (table.find? x).isSome) :
    ∃ chunk, assemble table name id = .ok chunk := by
  cases h : assemble table name id with
  | ok chunk => exact ⟨chunk, rfl⟩
  | error e =>
    obtain ⟨x, hnone, -, hx⟩ := assemble_error hk h
    rcases hx with rfl | ⟨a, hlead, m, hm, hdep⟩
    · simp [hnone] at hentry
    · obtain ⟨hmem, rfl⟩ := hk.find?_eq_some.1 hm
      simpa [hnone] using hdeps m hmem hlead x hdep

/-- An entry has a chunk exactly where nothing that it leads to is missing, and the search for its modules ends. -/
theorem assemble_exact (table : Table) (hk : table.Keyed) (name id : String) :
    (∀ entry, table.find id = .ok entry → ∃ rounds ≤ 1 + (table.modules.flatMap (·.dependencies)).length,
      Searches table rounds [] [entry] (closure table entry)) ∧
    ((∃ chunk, assemble table name id = .ok chunk) ↔ (table.find? id).isSome ∧
      ∀ m ∈ table.modules, table.Leads id m.id → ∀ x ∈ m.dependencies, (table.find? x).isSome) ∧
    (∀ chunk, assemble table name id = .ok chunk →
      chunk.name = name ∧ table.find? id = some chunk.entry ∧
      chunk.modules.Sublist table.modules ∧ chunk.ids.Nodup ∧
      (∀ m, m ∈ chunk.modules ↔ m ∈ table.modules ∧ table.Leads id m.id) ∧
      ∃ entry reached, table.find id = .ok entry ∧ closure table entry = .ok reached ∧ reached.Perm chunk.ids) ∧
    ∀ e, assemble table name id = .error e → ∃ x, e = .unknownModule x ∧ table.find? x = none ∧
      (x = id ∨ ∃ m ∈ table.modules, table.Leads id m.id ∧ x ∈ m.dependencies) := by
  refine ⟨fun entry _ => ?_, ⟨fun ⟨chunk, h⟩ => ?_, fun ⟨hentry, hdeps⟩ => exists_assemble hk name hentry hdeps⟩,
    fun chunk h => ?_, fun e h => ?_⟩
  · have hall : pending [] table.modules = table.modules.flatMap (·.dependencies) := by simp [pending]
    rw [← hall]
    exact exists_searches [] [entry]
  · refine ⟨isSome_of_assemble hk h .refl, fun m hm hlead x hx => ?_⟩
    exact isSome_of_assemble hk h (hlead.tail ⟨m, hk.find?_eq_some.2 ⟨hm, rfl⟩, hx⟩)
  · obtain ⟨hname, hentry, hsub, hmem⟩ := assemble_ok hk h
    obtain ⟨entry, reached, hfind, hreached⟩ := exists_closure h
    exact ⟨hname, hentry, hsub, nodup_ids hk h, hmem, entry, reached, hfind, hreached,
      perm_closure hk h hfind hreached⟩
  · obtain ⟨x, hnone, rfl, hx⟩ := assemble_error hk h
    refine ⟨x, rfl, hnone, hx.imp_right fun ⟨a, hlead, m, hm, hdep⟩ => ?_⟩
    obtain ⟨hmem, rfl⟩ := hk.find?_eq_some.1 hm
    exact ⟨m, hmem, hlead, hdep⟩

/-! ## An example: a knot -/

/-- A module that asks for itself and for one that asks back, and one that asks for what is not there. -/
def knot : Table :=
  [("./a.js", ["./b.js", "./a.js"]), ("./b.js", ["./a.js", "./b.js"]), ("./c.js", ["./a.js", "./gone.js"])].map
    fun (id, deps) => (id, { id := id, path := ⟨id⟩, transformed := "", emitted := "", dependencies := deps })

theorem knot_keyed : knot.Keyed := ⟨by decide, by decide⟩

theorem knot_leads {x : String} (h : knot.Leads "./a.js" x) : x ∈ ["./a.js", "./b.js"] := by
  induction h with
  | refl => decide
  | tail _ hask ih =>
    obtain ⟨m, hm, hdep⟩ := hask
    have hall : ∀ a ∈ ["./a.js", "./b.js"], ∀ m ∈ knot.find? a, ∀ x ∈ m.dependencies, x ∈ ["./a.js", "./b.js"] := by
      decide
    exact hall _ ih m hm _ hdep

theorem assemble_exact_knot : knot.Keyed ∧
    (∃ chunk, assemble knot "main" "./a.js" = .ok chunk ∧ chunk.ids ⊆ ["./a.js", "./b.js"] ∧ chunk.ids.Nodup) ∧
    assemble knot "main" "./c.js" = .error (.unknownModule "./gone.js") := by
  have hdeps : ∀ m ∈ knot.modules, ∀ x ∈ m.dependencies, knot.find? x = none → m.id = "./c.js" ∧ x = "./gone.js" := by
    decide
  refine ⟨knot_keyed, ?_, ?_⟩
  · obtain ⟨-, hok, hchunk, -⟩ := assemble_exact knot knot_keyed "main" "./a.js"
    have hclosed : ∀ m ∈ knot.modules, knot.Leads "./a.js" m.id → ∀ x ∈ m.dependencies, (knot.find? x).isSome := by
      intro m hm hlead x hx
      by_contra hnone
      have hid := (hdeps m hm x hx (by simpa using hnone)).1
      simpa [hid] using knot_leads hlead
    obtain ⟨chunk, h⟩ := hok.2 ⟨by decide, hclosed⟩
    obtain ⟨-, -, -, hnodup, hmem, -⟩ := hchunk chunk h
    refine ⟨chunk, h, fun x hx => ?_, hnodup⟩
    obtain ⟨m, hm, rfl⟩ := List.mem_map.1 hx
    exact knot_leads ((hmem m).1 hm).2
  · obtain ⟨-, hok, -, herr⟩ := assemble_exact knot knot_keyed "main" "./c.js"
    cases h : assemble knot "main" "./c.js" with
    | ok chunk =>
      obtain ⟨m, hm, hid, hx⟩ : ∃ m ∈ knot.modules, m.id = "./c.js" ∧ "./gone.js" ∈ m.dependencies := by decide
      have hgone := (hok.1 ⟨chunk, h⟩).2 m hm (hid ▸ .refl) "./gone.js" hx
      exact absurd hgone (by decide)
    | error e =>
      obtain ⟨x, rfl, hnone, rfl | ⟨m, hm, -, hx⟩⟩ := herr e h
      · exact absurd hnone (by decide)
      · rw [(hdeps m hm x hx hnone).2]

end Bundler.Chunk
