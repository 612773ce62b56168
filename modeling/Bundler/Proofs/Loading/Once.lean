import Bundler.Proofs.Loading.Machine
import Mathlib.Data.List.Perm.Subperm

/-!
# Modules are loaded once

However its factories ask for each other, a bundle starts each of them at most once, and it comes to an
end. What is asked for again is given as it stands. An id that the chunk lacks makes the loader throw,
unless objects have something under this name without having been given it.
-/

namespace Bundler.Loading

/-! ## What factories can do to objects -/

/-- An object that is neither the table nor the cache, or no object. -/
def Value.Loose : Value → Prop
  | .object a => 2 ≤ a
  | _ => True

/-- The table and the cache are as they were, and no field of an object is gone. -/
structure Heap.Keeps (h h' : Heap) : Prop where
  size : h.size ≤ h'.size
  table : h'.own 0 = h.own 0
  cache : h'.own 1 = h.own 1
  fields : ∀ a key, a < h.size → (h.own a key).isSome → (h'.own a key).isSome

namespace Heap

theorem Keeps.refl (h : Heap) : h.Keeps h := ⟨Nat.le_refl _, rfl, rfl, fun _ _ _ => id⟩

theorem keeps_put (h : Heap) {target : Value} (ht : target.Loose) (key : String) (v : Value) :
    h.Keeps (h.put target key v) := by
  cases target with
  | object a =>
    have ha : 2 ≤ a := ht
    have hother : ∀ b, b < 2 → (h.put (.object a) key v).own b = h.own b := by
      intro b hb
      funext k
      have hne : b ≠ a := by omega
      simp [put, hne]
    refine ⟨Nat.le_refl _, hother 0 (by omega), hother 1 (by omega), fun b k _ hsome => ?_⟩
    simp only [put]
    split
    · rfl
    · exact hsome
  | _ => exact .refl h

theorem own_alloc {h : Heap} {fields : List (String × Value)} {a : Nat} (ha : a < h.size) :
    (h.alloc fields).own a = h.own a := by
  funext k
  have hne : a ≠ h.size := by omega
  simp [alloc, hne]

theorem keeps_alloc {h : Heap} (hsize : 2 ≤ h.size) (fields : List (String × Value)) : h.Keeps (h.alloc fields) where
  size := Nat.le_succ _
  table := own_alloc (by omega)
  cache := own_alloc (by omega)
  fields a key ha hsome := by rwa [own_alloc ha]

theorem own_enlist {h : Heap} {id : String} {a : Nat} (ha : a < h.size) (key : String) :
    (h.enlist id).own a key = if a = 1 ∧ key = id then some (.object (h.size + 1)) else h.own a key := by
  have hne : a ≠ h.size := by omega
  have hne' : a ≠ h.size + 1 := by omega
  simp [enlist, put, alloc, hne, hne']

theorem own_enlist_cache {h : Heap} (hsize : 2 ≤ h.size) (id key : String) :
    (h.enlist id).own 1 key = if key = id then some (.object (h.size + 1)) else h.own 1 key := by
  rw [own_enlist (by omega)]
  simp

theorem own_enlist_empty {h : Heap} (hsize : 2 ≤ h.size) (id key : String) : (h.enlist id).own h.size key = none := by
  have hne : h.size ≠ 1 := by omega
  simp [enlist, put, alloc, hne]

theorem own_enlist_record {h : Heap} (hsize : 2 ≤ h.size) (id : String) :
    (h.enlist id).own (h.size + 1) "exports" = some (.object h.size) := by
  have hne : h.size ≠ 0 := by omega
  simp [enlist, put, alloc, hne]
  rfl

end Heap

/-! ## What holds at every step -/

def Control.Loose : Control → Prop
  | .runs module exports _ => module.Loose ∧ exports.Loose
  | .answers _ => True

/-- A factory has hold of loose objects only, and the loader has nothing left to do but to give back exports. -/
def Frame.Fit : Frame → Prop
  | .asks module exports _ => module.Loose ∧ exports.Loose
  | .loads scope rest => rest = [giveExports] ∧ ∃ record id, scope = loadScope record id

variable {s : Setting} {m m' : Machine}

/-- A step that starts no factory. -/
structure Machine.Quiet (m m' : Machine) : Prop where
  heap : m.heap.Keeps m'.heap
  started : m'.started = m.started
  depth : m'.depth ≤ m.depth
  control : m'.control.Loose
  frames : ∀ f ∈ m'.frames, f.Fit

theorem Machine.Quiet.cached_eq (hq : m.Quiet m') (id : String) : m'.cached? id = m.cached? id := by
  rw [cached?, hq.heap.cache, cached?]

namespace Setting

/-- A state of a bundle at work: the cache has a record with exports for each factory that was started, and
nothing else. -/
structure Sound (s : Setting) (m : Machine) : Prop where
  size : 2 ≤ m.heap.size
  table : ∀ id, m.heap.own 0 id = if id ∈ s.registered then some (.factory id) else none
  cached : ∀ id ∈ m.started, ∃ record, m.cached? id = some (.object record) ∧ record < m.heap.size ∧
    (m.heap.own record "exports").isSome
  fresh : ∀ id, id ∉ m.started → m.cached? id = none
  nodup : m.started.Nodup
  known : ∀ id ∈ m.started, id ∈ s.registered
  depth : m.depth ≤ m.started.length
  control : m.control.Loose
  frames : ∀ f ∈ m.frames, f.Fit

theorem sound_start (s : Setting) : s.Sound s.start where
  size := Nat.le_refl 2
  table id := by simp [start]
  cached := by simp [start]
  fresh := by simp [start, Machine.cached?]
  nodup := List.nodup_nil
  known := by simp [start]
  depth := Nat.le_refl 0
  control := ⟨trivial, trivial⟩
  frames := by simp [start]

/-- The machine when the loader has called a factory. -/
def begun (s : Setting) (m : Machine) (id : String) (frame : Frame) : Machine where
  heap := m.heap.enlist id
  started := m.started ++ [id]
  control := .runs (.object (m.heap.size + 1)) (.object m.heap.size) (s.factories id)
  frames := .loads (loadScope (m.heap.size + 1) id) [giveExports] :: frame :: m.frames

variable {module exports : Value} {id : String} {next : Except Value Value → Program}

theorem cached?_begun (hsize : 2 ≤ m.heap.size) (frame : Frame) (key : String) : (s.begun m id frame).cached? key =
    if key = id then some (.object (m.heap.size + 1)) else m.cached? key :=
  Heap.own_enlist_cache hsize id key

theorem step_of_asks {r : Except Value Value} {frames : List Frame} (hc : m.control = .answers r)
    (hframes : m.frames = .asks module exports next :: frames) :
    s.step m = some { m with control := .runs module exports (next r), frames := frames } := by
  simp only [step, hc, hframes]

namespace Sound

theorem read_cache (hs : s.Sound m) (h : id ∉ m.started) :
    m.heap.read s.names (.object 1) id = if id ∈ s.names then .inherited id else .undefined := by
  have hnone : m.heap.own 1 id = none := hs.fresh id h
  simp [Heap.read, hnone]

theorem step_of_started (hs : s.Sound m) (hc : m.control = .runs module exports (.require id next))
    (h : id ∈ m.started) :
    ∃ record v, m.cached? id = some (.object record) ∧ m.heap.own record "exports" = some v ∧
      s.step m = some { m with control := .answers (.ok v), frames := .asks module exports next :: m.frames } := by
  obtain ⟨record, hrecord, -, hexports⟩ := hs.cached id h
  obtain ⟨v, hv⟩ := Option.isSome_iff_exists.1 hexports
  have hfound : m.heap.read s.names (.object 1) id = .object record := by
    simp only [Machine.cached?] at hrecord
    simp [Heap.read, hrecord]
  have hread : m.heap.read s.names (.object record) "exports" = v := by simp [Heap.read, hv]
  refine ⟨record, v, hrecord, hv, ?_⟩
  simp only [step, hc]
  rw [exec_body_of_found hfound (by simp), hread]
  rfl

theorem step_of_inherited (hs : s.Sound m) (hc : m.control = .runs module exports (.require id next))
    (h : id ∉ m.started) (hname : id ∈ s.names) :
    s.step m = some { m with
      control := .answers (.ok (m.heap.read s.names (.inherited id) "exports"))
      frames := .asks module exports next :: m.frames } := by
  have hfound : m.heap.read s.names (.object 1) id = .inherited id := by rw [hs.read_cache h, if_pos hname]
  simp only [step, hc]
  rw [exec_body_of_found hfound (by simp)]
  rfl

theorem step_of_missing (hs : s.Sound m) (hc : m.control = .runs module exports (.require id next))
    (h : id ∉ m.started) (hname : id ∉ s.names) (hmissing : id ∉ s.registered) :
    s.step m = some { m with
      control := .answers (.error (notFound id)), frames := .asks module exports next :: m.frames } := by
  have hfound : m.heap.read s.names (.object 1) id = .undefined := by rw [hs.read_cache h, if_neg hname]
  have hnone : m.heap.own 0 id = none := by rw [hs.table, if_neg hmissing]
  simp only [step, hc]
  rw [exec_body_of_missing hfound hnone]
  rfl

theorem step_of_new (hs : s.Sound m) (hc : m.control = .runs module exports (.require id next))
    (h : id ∉ m.started) (hname : id ∉ s.names) (hregistered : id ∈ s.registered) :
    s.step m = some (s.begun m id (.asks module exports next)) := by
  have hfound : m.heap.read s.names (.object 1) id = .undefined := by rw [hs.read_cache h, if_neg hname]
  have hsome : m.heap.own 0 id = some (.factory id) := by rw [hs.table, if_pos hregistered]
  simp only [step, hc]
  rw [exec_body_of_new hfound hs.size hsome]
  rfl

theorem step_require (hs : s.Sound m) (hc : m.control = .runs module exports (.require id next)) :
    (∃ r, s.step m = some { m with control := .answers r, frames := .asks module exports next :: m.frames }) ∨
    id ∉ m.started ∧ id ∈ s.registered ∧ s.step m = some (s.begun m id (.asks module exports next)) := by
  by_cases h : id ∈ m.started
  · obtain ⟨record, v, -, -, hstep⟩ := hs.step_of_started hc h
    exact .inl ⟨_, hstep⟩
  by_cases hname : id ∈ s.names
  · exact .inl ⟨_, hs.step_of_inherited hc h hname⟩
  by_cases hregistered : id ∈ s.registered
  · exact .inr ⟨h, hregistered, hs.step_of_new hc h hname hregistered⟩
  · exact .inl ⟨_, hs.step_of_missing hc h hname hregistered⟩

theorem step_of_loads {r : Except Value Value} {scope : Scope} {rest : List Stmt} {frames : List Frame}
    (hs : s.Sound m) (hc : m.control = .answers r) (hframes : m.frames = .loads scope rest :: frames) :
    ∃ r', s.step m = some { m with control := .answers r', frames := frames } := by
  obtain ⟨rfl, record, id, rfl⟩ : Frame.Fit (.loads scope rest) := hs.frames _ (by simp [hframes])
  cases r with
  | ok v =>
    simp only [Setting.step, hc, hframes, exec_giveExports]
    exact ⟨_, rfl⟩
  | error v =>
    simp only [Setting.step, hc, hframes]
    exact ⟨_, rfl⟩

theorem quiet (hs : s.Sound m) (hq : m.Quiet m') : s.Sound m' where
  size := Nat.le_trans hs.size hq.heap.size
  table id := by rw [hq.heap.table, hs.table]
  cached id h := by
    obtain ⟨record, hrecord, hlt, hexports⟩ := hs.cached id (hq.started ▸ h)
    exact ⟨record, hq.cached_eq id ▸ hrecord, Nat.lt_of_lt_of_le hlt hq.heap.size, hq.heap.fields record _ hlt hexports⟩
  fresh id h := by rw [hq.cached_eq, hs.fresh id (hq.started ▸ h)]
  nodup := hq.started ▸ hs.nodup
  known := hq.started ▸ hs.known
  depth := hq.started ▸ Nat.le_trans hq.depth hs.depth
  control := hq.control
  frames := hq.frames

theorem begun (hs : s.Sound m) (hnew : id ∉ m.started) (hregistered : id ∈ s.registered)
    (hloose : module.Loose ∧ exports.Loose) : s.Sound (s.begun m id (.asks module exports next)) where
  size := Nat.le_trans hs.size (Nat.le_add_right _ 2)
  table key := by
    have hsize := hs.size
    rw [Setting.begun, Heap.own_enlist (by omega), if_neg (by simp), hs.table]
  cached key h := by
    rw [cached?_begun hs.size]
    rcases List.mem_append.1 h with h | h
    · have hne : key ≠ id := fun heq => hnew (heq ▸ h)
      obtain ⟨record, hrecord, hlt, hexports⟩ := hs.cached key h
      refine ⟨record, by rw [if_neg hne, hrecord], Nat.lt_add_right 2 hlt, ?_⟩
      rw [Setting.begun, Heap.own_enlist hlt]
      split
      · rfl
      · exact hexports
    · refine ⟨m.heap.size + 1, if_pos (List.mem_singleton.1 h), Nat.lt_add_one _, ?_⟩
      rw [Setting.begun, Heap.own_enlist_record hs.size]
      rfl
  fresh key h := by
    have hkey : key ∉ m.started ∧ key ≠ id := by simpa [Setting.begun] using h
    rw [cached?_begun hs.size, if_neg hkey.2, hs.fresh key hkey.1]
  nodup := by
    have hdisjoint : ∀ a ∈ m.started, a ≠ id := fun a ha heq => hnew (heq ▸ ha)
    simpa [Setting.begun, List.nodup_append, hs.nodup] using hdisjoint
  known key h := by
    rcases List.mem_append.1 h with h | h
    · exact hs.known key h
    · exact List.mem_singleton.1 h ▸ hregistered
  depth := by
    -- The call adds a frame of the loader, and a factory that was started.
    simpa [Machine.depth, Setting.begun, Frame.isLoads, List.countP_cons] using hs.depth
  control := ⟨Nat.le_trans hs.size (Nat.le_succ _), hs.size⟩
  frames f hf := by
    rcases List.mem_cons.1 hf with rfl | hf
    · exact ⟨rfl, _, _, rfl⟩
    rcases List.mem_cons.1 hf with rfl | hf
    · exact hloose
    · exact hs.frames f hf

/-- What a step does: it starts no factory, or one that was not started before. -/
theorem step_cases (hs : s.Sound m) (h : s.step m = some m') :
    m.Quiet m' ∨ ∃ id module exports next, id ∉ m.started ∧ id ∈ s.registered ∧ (module.Loose ∧ exports.Loose) ∧
      m' = s.begun m id (.asks module exports next) := by
  cases hc : m.control with
  | runs module exports program =>
    have hloose : module.Loose ∧ exports.Loose := by simpa [Control.Loose, hc] using hs.control
    cases program with
    | require id next =>
      rcases hs.step_require hc with ⟨r, hr⟩ | ⟨hnew, hregistered, hbegun⟩
      · obtain rfl := Option.some.inj (h.symm.trans hr)
        have hdepth : (Frame.asks module exports next :: m.frames).countP Frame.isLoads ≤ m.depth := by
          simp [Machine.depth, Frame.isLoads]
        exact .inl ⟨.refl _, rfl, hdepth, trivial, List.forall_mem_cons.2 ⟨hloose, hs.frames⟩⟩
      · exact .inr ⟨id, module, exports, next, hnew, hregistered, hloose, Option.some.inj (h.symm.trans hbegun)⟩
    | finish =>
      simp only [Setting.step, hc, Option.some.injEq] at h
      exact .inl (h ▸ ⟨.refl _, rfl, Nat.le_refl _, trivial, hs.frames⟩)
    | throw v =>
      simp only [Setting.step, hc, Option.some.injEq] at h
      exact .inl (h ▸ ⟨.refl _, rfl, Nat.le_refl _, trivial, hs.frames⟩)
    | write key v rest =>
      simp only [Setting.step, hc, Option.some.injEq] at h
      exact .inl (h ▸ ⟨m.heap.keeps_put hloose.2 key v, rfl, Nat.le_refl _, hloose, hs.frames⟩)
    | replace v rest =>
      simp only [Setting.step, hc, Option.some.injEq] at h
      exact .inl (h ▸ ⟨m.heap.keeps_put hloose.1 _ v, rfl, Nat.le_refl _, hloose, hs.frames⟩)
    | create fields next =>
      simp only [Setting.step, hc, Option.some.injEq] at h
      exact .inl (h ▸ ⟨Heap.keeps_alloc hs.size fields, rfl, Nat.le_refl _, hloose, hs.frames⟩)
    | look next =>
      simp only [Setting.step, hc, Option.some.injEq] at h
      exact .inl (h ▸ ⟨.refl _, rfl, Nat.le_refl _, hloose, hs.frames⟩)
  | answers r =>
    have hframes := hs.frames
    cases hf : m.frames with
    | nil => simp [Setting.step, hc, hf] at h
    | cons frame frames =>
      rw [hf, List.forall_mem_cons] at hframes
      have hdepth : frames.countP Frame.isLoads ≤ m.depth := by
        rw [Machine.depth, hf]
        exact (List.sublist_cons_self frame frames).countP_le
      cases frame with
      | asks module exports next =>
        obtain rfl := Option.some.inj (h.symm.trans (step_of_asks hc hf))
        exact .inl ⟨.refl _, rfl, hdepth, hframes.1, hframes.2⟩
      | loads scope rest =>
        obtain ⟨r', hr'⟩ := hs.step_of_loads hc hf
        obtain rfl := Option.some.inj (h.symm.trans hr')
        exact .inl ⟨.refl _, rfl, hdepth, trivial, hframes.2⟩

theorem step (hs : s.Sound m) (h : s.step m = some m') : s.Sound m' := by
  rcases hs.step_cases h with hq | ⟨id, module, exports, next, hnew, hregistered, hloose, rfl⟩
  · exact hs.quiet hq
  · exact hs.begun hnew hregistered hloose

theorem cached_step (hs : s.Sound m) (h : s.step m = some m') {id : String} {v : Value} (hv : m.cached? id = some v) :
    m'.cached? id = some v := by
  rcases hs.step_cases h with hq | ⟨new, module, exports, next, hnew, -, -, rfl⟩
  · rw [hq.cached_eq, hv]
  · have hne : id ≠ new := by
      rintro rfl
      cases hv.symm.trans (hs.fresh id hnew)
    rw [cached?_begun hs.size, if_neg hne, hv]

end Sound

/-! ## Runs -/

theorem after_of_step (h : s.step m = some m') (n : Nat) : s.after (n + 1) m = s.after n m' := by
  simp only [after, h]

theorem after_keeps {P : Machine → Prop} (hstep : ∀ m m', P m → s.step m = some m' → P m') (h : P m) (n : Nat) :
    P (s.after n m) := by
  induction n generalizing m with
  | zero => exact h
  | succ n ih =>
    cases hnext : s.step m with
    | none => simpa only [after, hnext] using h
    | some m' =>
      rw [after_of_step hnext]
      exact ih (hstep m m' h hnext)

theorem Sound.after (hs : s.Sound m) (n : Nat) : s.Sound (s.after n m) :=
  after_keeps (fun _ _ hs h => hs.step h) hs n

theorem Sound.cached_after (hs : s.Sound m) {id : String} {v : Value} (hv : m.cached? id = some v) (n : Nat) :
    (s.after n m).cached? id = some v :=
  (after_keeps (P := fun m => s.Sound m ∧ m.cached? id = some v)
    (fun _ _ hm h => ⟨hm.1.step h, hm.1.cached_step h hm.2⟩) ⟨hs, hv⟩ n).2

theorem Sound.length_started_le (hs : s.Sound m) : m.started.length ≤ s.registered.length :=
  (hs.nodup.subperm hs.known).length_le

/-! ## The end -/

/-- How many factories can still be started. -/
def unstarted (s : Setting) (m : Machine) : Nat := s.registered.length - m.started.length

def Ends (s : Setting) (m : Machine) : Prop := ∃ n r, (s.after n m).frames = [] ∧ (s.after n m).control = .answers r

theorem Ends.of_step (h : s.step m = some m') (hends : s.Ends m') : s.Ends m := by
  obtain ⟨n, hn⟩ := hends
  exact ⟨n + 1, by rwa [after_of_step h]⟩

/-- Programs are finite, and a call that starts a factory leaves fewer of them to be started. -/
theorem ends_of_runs {frames : List Frame} {left : Nat}
    (hfewer : ∀ m, s.Sound m → s.unstarted m < left → s.Ends m)
    (hanswer : ∀ m r, s.Sound m → s.unstarted m = left → m.frames = frames →
      m.control = .answers r → s.Ends m)
    (program : Program) (module exports : Value) (m : Machine) (hs : s.Sound m)
    (hunstarted : s.unstarted m = left) (hframes : m.frames = frames)
    (hc : m.control = .runs module exports program) : s.Ends m := by
  -- The frames below stay as they are while the program runs, so that its end is an answer to the same frames.
  induction program generalizing m with
  | finish =>
    have h : s.step m = some { m with control := .answers (.ok .undefined) } := by simp only [step, hc]
    exact .of_step h (hanswer _ _ (hs.step h) hunstarted hframes rfl)
  | throw v =>
    have h : s.step m = some { m with control := .answers (.error v) } := by simp only [step, hc]
    exact .of_step h (hanswer _ _ (hs.step h) hunstarted hframes rfl)
  | require id next ih =>
    rcases hs.step_require hc with ⟨r, h⟩ | ⟨-, -, h⟩
    · have hasks := step_of_asks (s := s) (m := { m with
        control := .answers r, frames := .asks module exports next :: m.frames }) rfl rfl
      exact .of_step h (.of_step hasks (ih r _ ((hs.step h).step hasks) hunstarted hframes rfl))
    · have hs' := hs.step h
      have hlength := hs'.length_started_le
      refine .of_step h (hfewer _ hs' ?_)
      simp only [unstarted, begun, List.length_append, List.length_singleton] at hlength hunstarted ⊢
      omega
  | write key v rest ih =>
    have h : s.step m = some { m with
        heap := m.heap.put exports key v, control := .runs module exports rest } := by simp only [step, hc]
    exact .of_step h (ih _ (hs.step h) hunstarted hframes rfl)
  | replace v rest ih =>
    have h : s.step m = some { m with
        heap := m.heap.put module "exports" v, control := .runs module exports rest } := by simp only [step, hc]
    exact .of_step h (ih _ (hs.step h) hunstarted hframes rfl)
  | create fields next ih =>
    have h : s.step m = some { m with
        heap := m.heap.alloc fields, control := .runs module exports (next (.object m.heap.size)) } := by
      simp only [step, hc]
    exact .of_step h (ih _ _ (hs.step h) hunstarted hframes rfl)
  | look next ih =>
    have h : s.step m = some { m with control := .runs module exports (next m.heap) } := by simp only [step, hc]
    exact .of_step h (ih _ _ (hs.step h) hunstarted hframes rfl)

theorem ends_of_answers {left : Nat}
    (hfewer : ∀ m, s.Sound m → s.unstarted m < left → s.Ends m)
    (frames : List Frame) (m : Machine) (r : Except Value Value) (hs : s.Sound m)
    (hunstarted : s.unstarted m = left) (hframes : m.frames = frames)
    (hc : m.control = .answers r) : s.Ends m := by
  induction frames generalizing m r with
  | nil => exact ⟨0, r, hframes, hc⟩
  | cons frame frames ih =>
    cases frame with
    | asks module exports next =>
      have h := step_of_asks (s := s) hc hframes
      exact .of_step h (ends_of_runs hfewer ih (next r) module exports _ (hs.step h) hunstarted rfl rfl)
    | loads scope rest =>
      obtain ⟨r', h⟩ := hs.step_of_loads hc hframes
      exact .of_step h (ih _ r' (hs.step h) hunstarted rfl rfl)

theorem Sound.ends (hs : s.Sound m) : s.Ends m := by
  induction hk : s.unstarted m using Nat.strongRecOn generalizing m with
  | _ left ih =>
    have hfewer : ∀ m, s.Sound m → s.unstarted m < left → s.Ends m :=
      fun m hs hlt => ih _ hlt hs rfl
    cases hc : m.control with
    | runs module exports program =>
      exact ends_of_runs hfewer (fun m r hs hk hframes hc => ends_of_answers hfewer _ m r hs hk hframes hc) program
        module exports m hs hk rfl hc
    | answers r => exact ends_of_answers hfewer m.frames m r hs hk rfl hc

/-! ## Modules that are asked for -/

theorem after_two_of_answers {module exports : Value} {next : Except Value Value → Program} {r : Except Value Value}
    (h : s.step m = some { m with control := .answers r, frames := .asks module exports next :: m.frames }) :
    s.after 2 m = { m with control := .runs module exports (next r) } := by
  rw [after_of_step h, after_of_step (step_of_asks rfl rfl)]
  rfl

/-- However its factories ask for each other, a bundle starts each of them at most once, and its run ends. -/
theorem loads_once (s : Setting) :
    writeFunction requireName "moduleId" body = Bundle.loader ∧
    (∀ n, let m := s.after n s.start
      m.started.Nodup ∧ (∀ id ∈ m.started, id ∈ s.chunk.ids) ∧ m.depth ≤ s.chunk.modules.length ∧
      (∀ id v, m.cached? id = some v → ∀ k, (s.after k m).cached? id = some v) ∧
      ∀ module exports id next, m.control = .runs module exports (.require id next) →
        (id ∈ m.started → ∃ record v, m.cached? id = some (.object record) ∧
          m.heap.own record "exports" = some v ∧
          s.after 2 m = { m with control := .runs module exports (next (.ok v)) }) ∧
        (id ∉ m.started → id ∈ s.names → s.after 2 m =
          { m with control := .runs module exports (next (.ok (m.heap.read s.names (.inherited id) "exports"))) }) ∧
        (id ∉ m.started → id ∉ s.names → id ∉ s.registered →
          s.after 2 m = { m with control := .runs module exports (next (.error (notFound id))) }) ∧
        (id ∉ m.started → id ∉ s.names → id ∈ s.registered → ∃ record empty,
          let m' := s.after 1 m
          m'.started = m.started ++ [id] ∧ m'.control = .runs (.object record) (.object empty) (s.factories id) ∧
          m'.heap.own record "exports" = some (.object empty) ∧ (∀ key, m'.heap.own empty key = none) ∧
          ∀ k, m'.cached? k = if k = id then some (.object record) else m.cached? k)) ∧
    ∃ n r, (s.after n s.start).frames = [] ∧ (s.after n s.start).control = .answers r := by
  refine ⟨writeFunction_body, fun n => ?_, s.sound_start.ends⟩
  intro m
  have hs : s.Sound m := s.sound_start.after n
  have hregistered : s.registered.length ≤ s.chunk.modules.length := by
    calc s.registered.length ≤ s.chunk.ids.length := List.length_filter_le _ _
      _ = s.chunk.modules.length := List.length_map _
  refine ⟨hs.nodup, fun id hid => List.mem_of_mem_filter (hs.known id hid), ?_,
    fun id v hv k => hs.cached_after hv k, ?_⟩
  · exact Nat.le_trans hs.depth (Nat.le_trans hs.length_started_le hregistered)
  intro module exports id next hc
  refine ⟨fun h => ?_, fun h hname => ?_, fun h hname hmissing => ?_, fun h hname hknown => ?_⟩
  · obtain ⟨record, v, hrecord, hv, hstep⟩ := hs.step_of_started hc h
    exact ⟨record, v, hrecord, hv, after_two_of_answers hstep⟩
  · exact after_two_of_answers (hs.step_of_inherited hc h hname)
  · exact after_two_of_answers (hs.step_of_missing hc h hname hmissing)
  · have hstep := hs.step_of_new hc h hname hknown
    refine ⟨m.heap.size + 1, m.heap.size, ?_⟩
    rw [after_of_step hstep]
    refine ⟨rfl, rfl, Heap.own_enlist_record hs.size id, fun key => ?_, fun k => ?_⟩
    · exact Heap.own_enlist_empty hs.size id key
    · exact cached?_begun hs.size _ k

/-! ## An example: a name that objects inherit -/

/-- The names that a plain object inherits. -/
def plainNames : List String :=
  ["constructor", "__defineGetter__", "__defineSetter__", "hasOwnProperty", "__lookupGetter__", "__lookupSetter__",
    "isPrototypeOf", "propertyIsEnumerable", "toString", "valueOf", "__proto__", "toLocaleString"]

/-- A chunk of one module, which asks for an id and does not catch what is thrown. -/
def asking (id : String) : Setting where
  chunk :=
    let text := requireName ++ "(" ++ Literal.quote id ++ ");"
    let asks : Module := { id := "./a.js", path := ⟨"/app/a.js"⟩, transformed := text, emitted := text }
    { name := "main", entry := asks, modules := [asks] }
  factories _ := .require id conclude
  names := plainNames

/-- The chunk lacks the id, and yet the loader does not throw. -/
theorem constructor_found : "constructor" ∉ (asking "constructor").chunk.ids ∧
    ((asking "constructor").after 7 (asking "constructor").start).frames = [] ∧
    ((asking "constructor").after 7 (asking "constructor").start).control = .answers (.ok .undefined) := by
  refine ⟨by decide, rfl, rfl⟩

example : ((asking "./b.js").after 7 (asking "./b.js").start).control = .answers (.error (notFound "./b.js")) := by
  rfl

end Setting
end Bundler.Loading
