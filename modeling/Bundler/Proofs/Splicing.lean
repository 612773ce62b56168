import Bundler.Proofs.Bytes
import Bundler.Proofs.Patch
import Mathlib.Data.List.Nodup
import Mathlib.Data.List.Perm.Basic
import Mathlib.Data.List.Range
import Mathlib.Tactic.MkIffOfInductiveProp

/-!
# Patches put in at once and one by one

Patches that cover whole characters and stand apart can be put into a source in one pass. The result is
the same whatever their order, it is the one that they give one by one from the last to the first, and
every byte that they do not cover stays, once and in its place.
-/

namespace Bundler.Patch

/-- A patch covers whole characters of a source. -/
@[mk_iff] structure Fits (source : String) (patch : Patch) : Prop where
  le : patch.start ≤ patch.stop
  start_valid : String.Pos.Raw.IsValid source ⟨patch.start⟩
  stop_valid : String.Pos.Raw.IsValid source ⟨patch.stop⟩

/-- One of two patches ends before the other one starts, or right there. -/
def Apart (p q : Patch) : Prop := p.stop ≤ q.start ∨ q.stop ≤ p.start

/-- Patches that can be put into a source together. -/
@[mk_iff] structure Suit (source : String) (patches : List Patch) : Prop where
  fits : ∀ patch ∈ patches, patch.Fits source
  starts : (patches.map start).Nodup
  apart : patches.Pairwise Apart

instance (source : String) (patch : Patch) : Decidable (Fits source patch) :=
  decidable_of_iff' _ (fits_iff source patch)

instance : DecidableRel Apart := fun p q => inferInstanceAs (Decidable (p.stop ≤ q.start ∨ q.stop ≤ p.start))

instance (source : String) (patches : List Patch) : Decidable (Suit source patches) :=
  decidable_of_iff' _ (suit_iff source patches)

/-- The bytes of a source with one patch put in. -/
def replace (bytes : List UInt8) (patch : Patch) : List UInt8 :=
  bytes.take patch.start ++ Text.bytes patch.text ++ bytes.drop patch.stop

/-- The patches from the highest start to the lowest. -/
def backward (patches : List Patch) : List Patch := patches.mergeSort fun p q => q.start ≤ p.start

/-- An offset that no patch covers. -/
def free (patches : List Patch) (offset : Nat) : Bool :=
  patches.all fun patch => offset < patch.start || patch.stop ≤ offset

/-- What the bytes of a text come from: each from an offset of the source, or from a patch. -/
structure Trail (source : String) (patches : List Patch) (out : String) (steps : List (Option Nat × UInt8)) : Prop where
  spells : steps.map Prod.snd = Text.bytes out
  /-- The bytes that no patch covers stay, once each and in their order. -/
  kept : steps.filterMap Prod.fst = (List.range (Text.bytes source).length).filter (free patches)
  same : ∀ offset byte, (some offset, byte) ∈ steps → (Text.bytes source)[offset]? = some byte
  /-- All others are those of the patches. -/
  added : (steps.filter (·.1.isNone)).map Prod.snd = (backward patches).reverse.flatMap (Text.bytes ·.text)

/-! ## Sorted patches -/

def Before (p q : Patch) : Prop := p.start < q.start ∧ p.stop ≤ q.start

theorem insert_pairwise {patch : Patch} {patches : List Patch} (h : patches.Pairwise (·.start ≤ ·.start)) :
    (insert patch patches).Pairwise (·.start ≤ ·.start) := by
  induction patches with
  | nil => simp [insert]
  | cons other rest ih =>
    obtain ⟨hother, hrest⟩ := List.pairwise_cons.1 h
    rw [insert]
    split
    · next hle =>
      refine List.pairwise_cons.2 ⟨fun p hp => ?_, h⟩
      rcases List.mem_cons.1 hp with rfl | hp
      · exact hle
      · exact hle.trans (hother p hp)
    · next hlt =>
      refine List.pairwise_cons.2 ⟨fun p hp => ?_, ih hrest⟩
      rcases List.mem_cons.1 ((insert_perm patch rest).mem_iff.1 hp) with rfl | hp
      · omega
      · exact hother p hp

theorem sort_pairwise (patches : List Patch) : (sort patches).Pairwise (·.start ≤ ·.start) := by
  induction patches with
  | nil => exact .nil
  | cons patch rest ih => exact insert_pairwise ih

namespace Suit

variable {source : String} {patches others : List Patch}

theorem perm (h : Suit source patches) (hperm : others.Perm patches) : Suit source others where
  fits patch hpatch := h.fits patch (hperm.mem_iff.1 hpatch)
  starts := (hperm.map start).nodup_iff.2 h.starts
  apart := h.apart.perm hperm.symm Or.symm

theorem before_sort (h : Suit source patches) : (sort patches).Pairwise Before := by
  have hsorted := h.perm (sort_perm patches)
  have hne : (sort patches).Pairwise (·.start ≠ ·.start) := List.pairwise_map.1 hsorted.starts
  refine (((sort_pairwise patches).and hne).and hsorted.apart).imp_of_mem ?_
  rintro p q hp hq ⟨⟨hle, hne⟩, hapart⟩
  have := (hsorted.fits q hq).le
  unfold Before
  rcases hapart with hapart | hapart <;> omega

theorem eq_of_start_eq (h : Suit source patches) {p q : Patch} (hp : p ∈ patches) (hq : q ∈ patches)
    (hstart : p.start = q.start) : p = q :=
  List.inj_on_of_nodup_map h.starts hp hq hstart

theorem sort_eq (h : Suit source patches) (hperm : others.Perm patches) : sort others = sort patches := by
  have hrow : (sort others).Perm (sort patches) := ((sort_perm others).trans hperm).trans (sort_perm patches).symm
  refine List.Perm.eq_of_pairwise ?_ (sort_pairwise others) (sort_pairwise patches) hrow
  intro p q hp hq hpq hqp
  have hmem : ∀ {patch}, patch ∈ sort patches → patch ∈ patches := (sort_perm patches).mem_iff.1
  exact h.eq_of_start_eq (hmem (hrow.mem_iff.1 hp)) (hmem hq) (by omega)

theorem backward_eq (h : Suit source patches) : backward patches = (sort patches).reverse := by
  have hperm := List.mergeSort_perm patches fun p q => q.start ≤ p.start
  have hrow : (backward patches).Perm (sort patches).reverse :=
    hperm.trans ((sort_perm patches).symm.trans (List.reverse_perm _).symm)
  have hsorted : (backward patches).Pairwise fun p q => q.start ≤ p.start :=
    (@List.pairwise_mergeSort Patch (fun p q => q.start ≤ p.start) (by simp; omega) (by simp; omega) patches).imp
      of_decide_eq_true
  refine List.Perm.eq_of_pairwise ?_ hsorted (List.pairwise_reverse.2 (sort_pairwise patches)) hrow
  intro p q hp hq hpq hqp
  have hq : q ∈ patches := (sort_perm patches).mem_iff.1 (List.mem_reverse.1 hq)
  exact h.eq_of_start_eq (hperm.mem_iff.1 hp) hq (by omega)

end Suit

/-! ## One pass over any row -/

variable {α β : Type}

/-- A row from a cursor on, with something put in place of what each patch covers. -/
def weave (row : List α) (put : Patch → List α) : Nat → List Patch → List α
  | cursor, [] => row.drop cursor
  | cursor, patch :: rest => (row.take patch.start).drop cursor ++ put patch ++ weave row put patch.stop rest

variable {row : List α} {put : Patch → List α} {cursor : Nat} {patches : List Patch}

theorem filterMap_weave {f : α → Option β} {g : α → β} (h : ∀ a ∈ row, f a = some (g a)) :
    (weave row put cursor patches).filterMap f =
      weave (row.map g) (fun patch => (put patch).filterMap f) cursor patches := by
  have hpart : ∀ part : List α, (∀ a ∈ part, a ∈ row) → part.filterMap f = part.map g := fun part hpart => by
    rw [← List.filterMap_eq_map]
    exact List.filterMap_congr fun a ha => h a (hpart a ha)
  induction patches generalizing cursor with
  | nil => rw [weave, weave, hpart _ fun _ => List.mem_of_mem_drop, List.map_drop]
  | cons patch rest ih =>
    have hkept := hpart ((row.take patch.start).drop cursor) fun _ ha =>
      List.mem_of_mem_take (List.mem_of_mem_drop ha)
    rw [weave, weave, List.filterMap_append, List.filterMap_append, hkept, ih, List.map_drop, List.map_take]

theorem map_weave (f : α → β) :
    (weave row put cursor patches).map f = weave (row.map f) (fun patch => (put patch).map f) cursor patches := by
  simpa [Function.comp_def] using filterMap_weave (f := some ∘ f) (fun _ _ => rfl)

theorem mem_weave {a : α} (h : a ∈ weave row put cursor patches) : a ∈ row ∨ ∃ patch ∈ patches, a ∈ put patch := by
  induction patches generalizing cursor with
  | nil => exact .inl (List.mem_of_mem_drop h)
  | cons patch rest ih =>
    rw [weave, List.mem_append, List.mem_append] at h
    rcases h with (h | h) | h
    · exact .inl (List.mem_of_mem_take (List.mem_of_mem_drop h))
    · exact .inr ⟨patch, List.mem_cons_self, h⟩
    · exact (ih h).imp_right fun ⟨other, hother, ha⟩ => ⟨other, List.mem_cons_of_mem _ hother, ha⟩

theorem filter_weave {keep : α → Bool} (h : ∀ a ∈ row, keep a = false) :
    (weave row put cursor patches).filter keep = patches.flatMap fun patch => (put patch).filter keep := by
  have hpart : ∀ part : List α, (∀ a ∈ part, a ∈ row) → part.filter keep = [] := fun part hpart =>
    List.filter_eq_nil_iff.2 fun a ha => by simp [h a (hpart a ha)]
  induction patches generalizing cursor with
  | nil => exact hpart _ fun _ => List.mem_of_mem_drop
  | cons patch rest ih =>
    have hkept := hpart ((row.take patch.start).drop cursor) fun _ ha =>
      List.mem_of_mem_take (List.mem_of_mem_drop ha)
    rw [weave, List.filter_append, List.filter_append, hkept, ih, List.flatMap_cons, List.nil_append]

/-! ## Patches in a row -/

/-- Patches of which each stands before the next, from a cursor on. -/
structure Lined (cursor : Nat) (patches : List Patch) : Prop where
  le : ∀ patch ∈ patches, patch.start ≤ patch.stop
  before : patches.Pairwise Before
  after : ∀ patch ∈ patches, cursor ≤ patch.start

theorem Lined.tail {patch : Patch} {rest : List Patch} (h : Lined cursor (patch :: rest)) : Lined patch.stop rest where
  le other hother := h.le other (List.mem_cons_of_mem _ hother)
  before := (List.pairwise_cons.1 h.before).2
  after other hother := ((List.pairwise_cons.1 h.before).1 other hother).2

theorem mem_weave_range {n offset : Nat} (h : Lined cursor patches) :
    offset ∈ weave (List.range n) (fun _ => []) cursor patches ↔
      offset < n ∧ cursor ≤ offset ∧ free patches offset = true := by
  induction patches generalizing cursor with
  | nil =>
    simp only [weave, free, List.range_eq_range', List.drop_range', List.mem_range'_1, List.all_nil, and_true]
    omega
  | cons patch rest ih =>
    have hstop := h.le patch List.mem_cons_self
    have hcursor := h.after patch List.mem_cons_self
    have hrest : offset < patch.start → free rest offset = true := fun hlt => by
      refine List.all_eq_true.2 fun other hother => ?_
      have := ((List.pairwise_cons.1 h.before).1 other hother).1
      simp only [Bool.or_eq_true, decide_eq_true_eq]
      omega
    have hkept : offset ∈ ((List.range n).take patch.start).drop cursor ↔
        cursor ≤ offset ∧ offset < n ∧ offset < patch.start := by
      rw [List.take_range, List.range_eq_range', List.drop_range', List.mem_range'_1]
      omega
    have hfree : free (patch :: rest) offset = true ↔
        (offset < patch.start ∨ patch.stop ≤ offset) ∧ free rest offset = true := by
      simp [free]
    rw [weave, List.append_nil, List.mem_append, hkept, ih h.tail, hfree]
    constructor
    · rintro (⟨hge, hn, hlt⟩ | ⟨hn, hge, hfree⟩)
      · exact ⟨hn, hge, .inl hlt, hrest hlt⟩
      · exact ⟨hn, by omega, .inr hge, hfree⟩
    · rintro ⟨hn, hge, hlt | hle, hfree⟩
      · exact .inl ⟨hge, hn, hlt⟩
      · exact .inr ⟨hn, hle, hfree⟩

theorem pairwise_weave_range {n : Nat} (h : Lined cursor patches) :
    (weave (List.range n) (fun _ => []) cursor patches).Pairwise (· < ·) := by
  induction patches generalizing cursor with
  | nil => exact List.pairwise_lt_range.drop
  | cons patch rest ih =>
    rw [weave, List.append_nil]
    refine List.pairwise_append.2 ⟨List.pairwise_lt_range.take.drop, ih h.tail, fun a ha b hb => ?_⟩
    have hlt : a < patch.start := by
      have := List.mem_of_mem_drop ha
      simp only [List.take_range, List.mem_range] at this
      omega
    have hge := ((mem_weave_range h.tail).1 hb).2.1
    have := h.le patch List.mem_cons_self
    omega

theorem weave_range {n : Nat} (h : Lined 0 patches) :
    weave (List.range n) (fun _ => []) 0 patches = (List.range n).filter (free patches) := by
  have hleft := pairwise_weave_range (n := n) h
  have hright : ((List.range n).filter (free patches)).Pairwise (· < ·) := List.pairwise_lt_range.filter _
  have hperm : (weave (List.range n) (fun _ => []) 0 patches).Perm ((List.range n).filter (free patches)) := by
    refine (List.perm_ext_iff_of_nodup (hleft.imp Nat.ne_of_lt) (hright.imp Nat.ne_of_lt)).2 fun offset => ?_
    simp [mem_weave_range h]
  -- Two rows of the same offsets that both rise are one row.
  exact List.Perm.eq_of_pairwise (fun a b _ _ hab hba => by omega) hleft hright hperm

/-! ## Characters and bytes -/

variable {source : String}

/-- The pass over the characters of a source is the one over its bytes. -/
theorem exists_spliceFrom (hfits : ∀ patch ∈ patches, patch.Fits source) (h : Lined cursor patches)
    (hcursor : String.Pos.Raw.IsValid source ⟨cursor⟩) :
    ∃ out, spliceFrom source.toList cursor patches = some out ∧
      Text.bytes (String.ofList out) = weave (Text.bytes source) (Text.bytes ·.text) cursor patches := by
  induction patches generalizing cursor with
  | nil => exact Text.exists_drop? hcursor
  | cons patch rest ih =>
    obtain ⟨-, hstart, hstop⟩ := hfits patch List.mem_cons_self
    obtain ⟨kept, hkept, hbytes⟩ := Text.exists_slice? (h.after patch List.mem_cons_self) hcursor hstart
    obtain ⟨after, hafter, hrest⟩ := ih (fun p hp => hfits p (List.mem_cons_of_mem _ hp)) h.tail hstop
    refine ⟨kept ++ patch.text.toList ++ after, ?_, ?_⟩
    · rw [spliceFrom, hkept, hafter]
      rfl
    · rw [Text.bytes_append, Text.bytes_append, hbytes, hrest, String.ofList_toList, weave]

theorem foldr_replace {bytes : List UInt8} (h : Lined cursor patches) (hcursor : cursor ≤ bytes.length)
    (hstop : ∀ patch ∈ patches, patch.stop ≤ bytes.length) :
    patches.foldr (fun patch bytes => replace bytes patch) bytes =
      bytes.take cursor ++ weave bytes (Text.bytes ·.text) cursor patches := by
  induction patches generalizing cursor with
  | nil => exact (List.take_append_drop cursor bytes).symm
  | cons patch rest ih =>
    have hlen := hstop patch List.mem_cons_self
    have hle := h.le patch List.mem_cons_self
    have hcursor := h.after patch List.mem_cons_self
    rw [List.foldr_cons, ih h.tail hlen fun p hp => hstop p (List.mem_cons_of_mem _ hp)]
    -- The later patches are in, and up to the end of this one the bytes are still those of the source.
    have hfront : (bytes.take patch.stop ++ weave bytes (Text.bytes ·.text) patch.stop rest).take patch.start =
        bytes.take cursor ++ (bytes.take patch.start).drop cursor := by
      rw [List.take_append_of_le_length (by simp; omega), List.take_take, Nat.min_eq_left hle]
      conv_lhs => rw [← List.take_append_drop cursor (bytes.take patch.start), List.take_take,
        Nat.min_eq_left hcursor]
    have hback : (bytes.take patch.stop ++ weave bytes (Text.bytes ·.text) patch.stop rest).drop patch.stop =
        weave bytes (Text.bytes ·.text) patch.stop rest :=
      List.drop_left' (by simp [hlen])
    rw [replace, hfront, hback, weave]
    simp only [List.append_assoc]

/-! ## Bytes with their offsets -/

theorem free_sort (patches : List Patch) : free (sort patches) = free patches := by
  funext offset
  exact (sort_perm patches).all_eq

/-- The bytes of a source with their offsets. -/
def numbered (bytes : List UInt8) : List (Option Nat × UInt8) := bytes.zipIdx.map fun (byte, i) => (some i, byte)

/-- The bytes of a patch, which have no offset. -/
def fresh (patch : Patch) : List (Option Nat × UInt8) := (Text.bytes patch.text).map fun byte => (none, byte)

theorem mem_numbered {bytes : List UInt8} {step : Option Nat × UInt8} (h : step ∈ numbered bytes) :
    ∃ offset byte, step = (some offset, byte) ∧ bytes[offset]? = some byte := by
  obtain ⟨⟨byte, offset⟩, hmem, rfl⟩ := List.mem_map.1 h
  exact ⟨offset, byte, rfl, List.mk_mem_zipIdx_iff_getElem?.1 hmem⟩

theorem map_filter_fresh (patch : Patch) :
    ((fresh patch).filter (·.1.isNone)).map Prod.snd = Text.bytes patch.text := by
  rw [fresh, List.filter_map, List.map_map]
  simp [Function.comp_def]

/-! ## Patches that suit a source -/

namespace Suit

theorem fits_sort (h : Suit source patches) : ∀ patch ∈ sort patches, patch.Fits source := fun patch hpatch =>
  h.fits patch ((sort_perm patches).mem_iff.1 hpatch)

theorem lined (h : Suit source patches) : Lined 0 (sort patches) where
  le patch hpatch := (h.fits_sort patch hpatch).le
  before := h.before_sort
  after _ _ := Nat.zero_le _

theorem exists_splice? (h : Suit source patches) :
    ∃ out, splice? source patches = some out ∧
      Text.bytes out = weave (Text.bytes source) (Text.bytes ·.text) 0 (sort patches) := by
  have hzero : String.Pos.Raw.IsValid source ⟨0⟩ := Text.isValid_iff.2 ⟨[], source.toList, rfl, rfl⟩
  obtain ⟨chars, hchars, hbytes⟩ := exists_spliceFrom h.fits_sort h.lined hzero
  exact ⟨String.ofList chars, by rw [splice?, hchars, Option.map_some], hbytes⟩

theorem foldl_replace (h : Suit source patches) :
    (backward patches).foldl replace (Text.bytes source) =
      weave (Text.bytes source) (Text.bytes ·.text) 0 (sort patches) := by
  rw [h.backward_eq, List.foldl_reverse, foldr_replace h.lined (Nat.zero_le _) fun patch hpatch =>
    Text.le_length_of_isValid (h.fits_sort patch hpatch).stop_valid, List.take_zero, List.nil_append]

theorem trail (h : Suit source patches) {out : String}
    (hout : Text.bytes out = weave (Text.bytes source) (Text.bytes ·.text) 0 (sort patches)) :
    Trail source patches out (weave (numbered (Text.bytes source)) fresh 0 (sort patches)) where
  spells := by
    rw [map_weave, hout]
    simp [numbered, fresh, Function.comp_def, List.zipIdx_map_fst]
  kept := by
    have hsome : ∀ step ∈ numbered (Text.bytes source), step.1 = some (step.1.getD 0) := fun step hstep => by
      obtain ⟨offset, byte, rfl, -⟩ := mem_numbered hstep
      rfl
    rw [← free_sort, ← weave_range h.lined, filterMap_weave hsome]
    simp [numbered, fresh, Function.comp_def, List.range_eq_range']
  same offset byte hmem := by
    rcases mem_weave hmem with hmem | ⟨patch, -, hmem⟩
    · obtain ⟨_, _, heq, hbyte⟩ := mem_numbered hmem
      cases heq
      exact hbyte
    · simp [fresh] at hmem
  added := by
    have hnone : ∀ step ∈ numbered (Text.bytes source), step.1.isNone = false := fun step hstep => by
      obtain ⟨offset, byte, rfl, -⟩ := mem_numbered hstep
      rfl
    rw [h.backward_eq, List.reverse_reverse, filter_weave hnone, List.map_flatMap]
    simp only [map_filter_fresh]

end Suit

/-- Patches that stand apart give one result in every order: the one they give one by one, the last one first. -/
theorem splice_one_by_one {source : String} {patches : List Patch} (h : Suit source patches) :
    ∃ out, splice? source patches = some out ∧
      Text.bytes out = (backward patches).foldl replace (Text.bytes source) ∧
      (∀ others, others.Perm patches → splice? source others = some out) ∧
      ∃ steps, Trail source patches out steps := by
  obtain ⟨out, hout, hbytes⟩ := h.exists_splice?
  refine ⟨out, hout, hbytes.trans h.foldl_replace.symm, fun others hperm => ?_, _, h.trail hbytes⟩
  rw [← hout, splice?, splice?, h.sort_eq hperm]

/-- Neighbours, an empty patch and one over a long character, out of order. -/
def mixed : List Patch := [⟨3, 6, "d"⟩, ⟨0, 1, "aa"⟩, ⟨6, 6, "→"⟩, ⟨1, 3, ""⟩]

theorem splice_one_by_one_mixed :
    Suit "xé→y" mixed ∧ splice? "xé→y" mixed = some "aad→y" ∧
      Text.bytes "aad→y" = (backward mixed).foldl replace (Text.bytes "xé→y") ∧
      splice? "xé→y" mixed.reverse = some "aad→y" ∧ ∃ steps, Trail "xé→y" mixed "aad→y" steps := by
  have hsuit : Suit "xé→y" mixed := by decide
  have hresult : splice? "xé→y" mixed = some "aad→y" := by decide
  obtain ⟨out, hout, hbytes, hperm, htrail⟩ := splice_one_by_one hsuit
  obtain rfl : out = "aad→y" := by simpa [hresult] using hout.symm
  exact ⟨hsuit, hout, hbytes, hperm _ (List.reverse_perm _), htrail⟩

end Bundler.Patch
