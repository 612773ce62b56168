import Bundler.Extract
import Bundler.Proofs.Nesting
import Bundler.Proofs.Project
import Bundler.Proofs.Splicing
import Mathlib.Data.List.Pairwise

/-!
# What is changed in a script

In a script whose calls of `require` can be met, the called names and the first arguments are replaced,
and the first two characters of a first line for the shell. These places stand apart, so that they can
be replaced at once, and nothing else changes.
-/

namespace Bundler
open Script

/-! ## Calls of `require` -/

namespace Script.Tree

/-- The plain name `require` is called. -/
def callsRequire : Tree → Bool
  | .node (.call _) _ _ (callee :: _) => callee.shape == .name "require"
  | _ => false

/-- A call of `require` whose first argument, after any type arguments, is a literal. -/
inductive Asks : Tree → Tree → Tree → String → Prop where
  | call {generics start stop : Nat} {callee argument : Tree} {others : List Tree} {specifier : String} :
    callee.shape = .name "require" → others[generics]? = some argument → literal? argument = some specifier →
    Asks (.node (.call generics) start stop (callee :: others)) callee argument specifier

/-- The call that a node makes, if its module is known. -/
def require? (tree : Tree) : Option Require :=
  match requireCall? tree with
  | some (.known call) => some call
  | _ => none

variable {tree callee argument : Tree} {specifier : String} {call : Require}

theorem isSome_requireCall? (tree : Tree) : (requireCall? tree).isSome = tree.callsRequire := by
  unfold requireCall?
  split
  · rfl
  · next hother =>
    unfold callsRequire
    split
    · next callee _ =>
      obtain ⟨shape, start, stop, children⟩ := callee
      symm
      rw [Option.isSome_none, beq_eq_false_iff_ne]
      rintro hshape
      exact hother _ _ _ _ _ _ _ (by rw [← hshape]; rfl)
    · rfl

theorem Asks.requireCall?_eq (h : tree.Asks callee argument specifier) :
    requireCall? tree = some (.known ⟨specifier, callee.span, argument.span⟩) := by
  obtain ⟨hcallee, hargument, hliteral⟩ := h
  obtain ⟨shape, start, stop, children⟩ := callee
  obtain rfl : shape = .name "require" := hcallee
  simp only [requireCall?, hargument, hliteral]
  rfl

theorem asks_of_requireCall?_eq (h : requireCall? tree = some (.known call)) :
    ∃ callee argument, tree.Asks callee argument call.specifier ∧
      call.callee = callee.span ∧ call.argument = argument.span := by
  unfold requireCall? at h
  split at h
  · next generics start stop callee_start callee_stop children others =>
    rw [Option.some.injEq] at h
    split at h
    · cases h
    · next argument hargument =>
      split at h
      · next specifier hliteral =>
        cases h
        exact ⟨_, _, .call rfl hargument hliteral, rfl, rfl⟩
      · cases h
  · cases h

theorem require?_eq_some_iff : tree.require? = some call ↔ ∃ callee argument,
    tree.Asks callee argument call.specifier ∧ call.callee = callee.span ∧ call.argument = argument.span := by
  unfold require?
  constructor
  · intro h
    split at h
    · next hcall =>
      cases h
      exact asks_of_requireCall?_eq hcall
    · cases h
  · rintro ⟨callee, argument, hasks, hcallee, hargument⟩
    rw [hasks.requireCall?_eq, ← hcallee, ← hargument]

theorem Asks.require?_eq (h : tree.Asks callee argument specifier) :
    tree.require? = some ⟨specifier, callee.span, argument.span⟩ :=
  require?_eq_some_iff.2 ⟨callee, argument, h, rfl, rfl⟩

theorem isLeaf_of_literal? (h : literal? argument = some specifier) : argument.isLeaf = true := by
  unfold literal? at h
  unfold isLeaf
  split at h
  · next hshape => rw [hshape]
  · next hshape => rw [hshape]
  · cases h

theorem Asks.leaves (h : tree.Asks callee argument specifier) :
    (callee ∈ tree.children ∧ callee.isLeaf = true) ∧ (argument ∈ tree.children ∧ argument.isLeaf = true) ∧
      callee ≠ argument := by
  obtain ⟨hcallee, hargument, hliteral⟩ := h
  refine ⟨⟨List.mem_cons_self, by rw [isLeaf, hcallee]⟩,
    ⟨List.mem_cons_of_mem _ (List.mem_of_getElem? hargument), isLeaf_of_literal? hliteral⟩, ?_⟩
  rintro rfl
  simp [literal?, hcallee] at hliteral

end Script.Tree

/-! ## Places of the calls -/

/-- The places of a call that are replaced. -/
def Require.spans (call : Require) : List Span := [call.callee, call.argument]

/-- A span of whole characters that is not empty. -/
structure Span.Solid (source : String) (span : Span) : Prop where
  lt : span.start < span.stop
  start_valid : String.Pos.Raw.IsValid source ⟨span.start⟩
  stop_valid : String.Pos.Raw.IsValid source ⟨span.stop⟩

namespace Script.Tree

variable {source : String} {tree a b : Tree} {call : Require} {span : Span}

theorem exists_leaf (h : tree.require? = some call) (hspan : span ∈ call.spans) :
    ∃ child ∈ tree.children, child.isLeaf = true ∧ span = child.span := by
  obtain ⟨callee, argument, hasks, hcallee, hargument⟩ := require?_eq_some_iff.1 h
  obtain ⟨⟨hmem, hleaf⟩, ⟨hmem', hleaf'⟩, -⟩ := hasks.leaves
  simp only [Require.spans, List.mem_cons, List.not_mem_nil, or_false] at hspan
  rcases hspan with rfl | rfl
  · exact ⟨callee, hmem, hleaf, hcallee⟩
  · exact ⟨argument, hmem', hleaf', hargument⟩

theorem WellSet.solid (h : tree.WellSet source) (hleaf : tree.isLeaf = true) : tree.span.Solid source :=
  ⟨(h.leaf hleaf).1, h.start_valid, h.stop_valid⟩

theorem WellSet.within (h : tree.WellSet source) (hcall : tree.require? = some call) (hspan : span ∈ call.spans) :
    span.Within tree.span := by
  obtain ⟨child, hchild, -, rfl⟩ := exists_leaf hcall hspan
  exact h.inside child hchild

theorem WellSet.disjoint_spans (h : tree.WellSet source) (hcall : tree.require? = some call) :
    call.spans.Pairwise Span.Disjoint := by
  obtain ⟨callee, argument, hasks, hcallee, hargument⟩ := require?_eq_some_iff.1 hcall
  obtain ⟨⟨hmem, -⟩, ⟨hmem', -⟩, hne⟩ := hasks.leaves
  simpa [Require.spans, hcallee, hargument] using h.disjoint.forall hmem hmem' hne

theorem disjoint_of_nested (ha : a.WellSet source) (hinner : ∀ n ∈ nodesIn a.children, n.WellSet source)
    (hb : b.WellSet source) (h : Nested a b) {first second : Require} (hfirst : a.require? = some first)
    (hsecond : b.require? = some second) {s t : Span} (hs : s ∈ first.spans) (ht : t ∈ second.spans) :
    s.Disjoint t := by
  rcases h with hmem | hdisjoint
  · -- The second call stands in one of the first one's children. That is no replaced one: nothing stands in a leaf.
    obtain ⟨top, htop, hmem⟩ := mem_nodesIn.1 hmem
    have hset : ∀ n ∈ top.nodes, n.WellSet source := fun n hn => hinner n (mem_nodesIn.2 ⟨top, htop, hn⟩)
    obtain ⟨leaf, hleaf, hisLeaf, rfl⟩ := exists_leaf hfirst hs
    have hne : leaf ≠ top := by
      rintro rfl
      have hnone := ((hset leaf leaf.self_mem_nodes).leaf hisLeaf).2
      rw [nodes_eq, hnone] at hmem
      obtain rfl : b = leaf := by simpa [nodesIn] using hmem
      obtain ⟨child, hchild, -⟩ := exists_leaf hsecond ht
      simp [hnone] at hchild
    have htop := ha.disjoint.forall hleaf htop hne
    exact htop.mono (.refl _) ((hb.within hsecond ht).trans (within_of_mem_nodes hset hmem))
  · exact hdisjoint.mono (ha.within hfirst hs) (hb.within hsecond ht)

theorem disjoint_requires {trees : List Tree} (hset : ∀ n ∈ nodesIn trees, n.WellSet source)
    (hdisjoint : trees.Pairwise fun a b => a.span.Disjoint b.span) :
    ((nodesIn trees).filterMap require?).Pairwise fun first second =>
      ∀ s ∈ first.spans, ∀ t ∈ second.spans, s.Disjoint t := by
  refine List.pairwise_filterMap.2 ((pairwise_nodesIn hset hdisjoint).imp_of_mem ?_)
  intro a b ha hb hnested first hfirst second hsecond s hs t ht
  exact disjoint_of_nested (hset a ha) (fun n hn => hset n (mem_nodesIn_of_mem ha hn)) (hset b hb) hnested
    hfirst hsecond hs ht

end Script.Tree

/-! ## Patches of a script -/

def Patch.span (patch : Patch) : Span := ⟨patch.start, patch.stop⟩

theorem Patch.suit_of_disjoint {source : String} {patches : List Patch}
    (hsolid : ∀ patch ∈ patches, patch.span.Solid source)
    (h : patches.Pairwise fun p q => p.span.Disjoint q.span) : Patch.Suit source patches where
  fits patch hpatch :=
    let ⟨hlt, hstart, hstop⟩ := hsolid patch hpatch
    ⟨Nat.le_of_lt hlt, hstart, hstop⟩
  starts := by
    refine List.pairwise_map.2 (h.imp_of_mem fun {p q} hp hq hdisjoint => ?_)
    have := (hsolid p hp).lt
    have := (hsolid q hq).lt
    simp only [Span.Disjoint, Patch.span] at *
    omega
  apart := by
    refine h.imp_of_mem fun {p q} hp hq hdisjoint => ?_
    have := (hsolid p hp).lt
    have := (hsolid q hq).lt
    simp only [Span.Disjoint, Patch.span, Patch.Apart] at *
    omega

theorem span_mem_of_mem_callPatches {call : Require} {id : String} {patch : Patch} (h : patch ∈ callPatches call id) :
    patch.span ∈ call.spans := by
  simp only [callPatches, List.mem_cons, List.not_mem_nil, or_false] at h
  rcases h with rfl | rfl <;> simp [Patch.span, Require.spans]

theorem disjoint_callPatches {requires : List Require} {dependencies : List Dependency}
    (hlength : requires.length = dependencies.length) (hspans : ∀ call ∈ requires, call.spans.Pairwise Span.Disjoint)
    (hdisjoint : requires.Pairwise fun first second => ∀ s ∈ first.spans, ∀ t ∈ second.spans, s.Disjoint t) :
    ((requires.zip dependencies).flatMap fun (call, d) => callPatches call d.id).Pairwise
      fun p q => p.span.Disjoint q.span := by
  refine List.pairwise_flatMap.2 ⟨fun (call, d) hrow => ?_, ?_⟩
  · simpa [callPatches, Patch.span, Require.spans] using hspans call (List.of_mem_zip hrow).1
  · rw [← List.map_fst_zip (Nat.le_of_eq hlength), List.pairwise_map] at hdisjoint
    refine hdisjoint.imp fun h p hp q hq => ?_
    exact h _ (span_mem_of_mem_callPatches hp) _ (span_mem_of_mem_callPatches hq)

namespace Script.Program

/-- How the nodes of a script stand in its source. A first line for the shell starts with `#!` at the very
start, and every node comes after it. -/
@[mk_iff] structure WellSet (source : String) (program : Program) : Prop where
  nodes : ∀ tree ∈ Tree.nodesIn program.body, tree.WellSet source
  disjoint : program.body.Pairwise fun a b => a.span.Disjoint b.span
  hashbang : ∀ line ∈ program.hashbang, line.1 = 0 ∧ 2 ≤ line.2 ∧ ['#', '!'] <+: source.toList ∧
    ∀ tree ∈ Tree.nodesIn program.body, line.2 ≤ tree.start

instance (source : String) (program : Program) : Decidable (program.WellSet source) :=
  decidable_of_iff' _ (wellSet_iff source program)

/-- What is changed in a script whose specifiers are resolved in some way. -/
inductive Edit (program : Program) (resolve : String → Except Error Path) (root : Path) : Patch → Prop where
  | hashbang {start stop : Nat} : program.hashbang = some (start, stop) →
    Edit program resolve root ⟨start, start + 2, "//"⟩
  | callee {tree callee argument : Tree} {specifier : String} : tree ∈ Tree.nodesIn program.body →
    tree.Asks callee argument specifier → Edit program resolve root ⟨callee.start, callee.stop, "__rpack_require__"⟩
  | argument {tree callee argument : Tree} {specifier : String} {found : Path} : tree ∈ Tree.nodesIn program.body →
    tree.Asks callee argument specifier → resolve specifier = .ok found →
    Edit program resolve root ⟨argument.start, argument.stop, Literal.quote (Path.idFrom root found)⟩

/-- Every call of `require` has a literal that can be resolved. -/
def Met (program : Program) (resolve : String → Except Error Path) : Prop :=
  ∀ tree ∈ Tree.nodesIn program.body, tree.callsRequire = true →
    ∃ callee argument specifier found, tree.Asks callee argument specifier ∧ resolve specifier = .ok found

variable {program : Program} {source : String} {resolve : String → Except Error Path}

/-! ### What is found -/

theorem splitKnown_map_known (requires : List Require) : splitKnown (requires.map .known) = (requires, none) := by
  induction requires with
  | nil => rfl
  | cons call rest ih => rw [List.map_cons, splitKnown, ih]

theorem Met.requireCall?_eq (h : program.Met resolve) {tree : Tree} (htree : tree ∈ Tree.nodesIn program.body) :
    requireCall? tree = tree.require?.map .known := by
  cases hcalls : tree.callsRequire with
  | true =>
    obtain ⟨callee, argument, specifier, -, hasks, -⟩ := h tree htree hcalls
    rw [hasks.require?_eq, hasks.requireCall?_eq]
    rfl
  | false =>
    have hnone : requireCall? tree = none := by
      rw [← Option.not_isSome_iff_eq_none, tree.isSome_requireCall?, hcalls]
      exact Bool.false_ne_true
    rw [Tree.require?, hnone]
    rfl

/-- The calls of a script whose modules are known, and its first line for the shell. -/
def found (program : Program) : Scan where
  requires := (Tree.nodesIn program.body).filterMap Tree.require?
  hashbang := program.hashbang.map fun (start, stop) => ⟨start, stop⟩

theorem Met.scan_eq (h : program.Met resolve) (path : Path) (source : String) :
    program.scan path source = .ok program.found := by
  have hcalls : Tree.requiresIn program.body =
      ((Tree.nodesIn program.body).filterMap Tree.require?).map .known := by
    rw [Tree.requiresIn_eq_filterMap, List.map_filterMap]
    exact List.filterMap_congr fun tree htree => h.requireCall?_eq htree
  rw [scan, hcalls, splitKnown_map_known]
  rfl

theorem Met.exists_resolved (h : program.Met resolve) {call : Require} (hcall : call ∈ program.found.requires) :
    ∃ found, resolve call.specifier = .ok found := by
  obtain ⟨tree, htree, hcall⟩ := List.mem_filterMap.1 hcall
  have hcalls : tree.callsRequire = true := by
    rw [← tree.isSome_requireCall?, h.requireCall?_eq htree, hcall]
    rfl
  obtain ⟨callee, argument, specifier, found, hasks, hfound⟩ := h tree htree hcalls
  rw [hasks.require?_eq] at hcall
  cases hcall
  exact ⟨found, hfound⟩

/-! ### What is put in -/

theorem solid_hashbang (h : ['#', '!'] <+: source.toList) : Span.Solid source ⟨0, 2⟩ := by
  obtain ⟨rest, hrest⟩ := h
  exact ⟨by decide, Text.isValid_iff.2 ⟨[], source.toList, rfl, rfl⟩,
    Text.isValid_iff.2 ⟨['#', '!'], rest, hrest.symm, by decide⟩⟩

variable {dependencies : List Dependency}

theorem WellSet.exists_leaf (h : program.WellSet source) {patch : Patch}
    (hpatch : patch ∈ (program.found.requires.zip dependencies).flatMap fun (call, d) => callPatches call d.id) :
    patch.span.Solid source ∧ ∃ leaf ∈ Tree.nodesIn program.body, patch.span = leaf.span := by
  obtain ⟨⟨call, d⟩, hrow, hpatch⟩ := List.mem_flatMap.1 hpatch
  obtain ⟨tree, htree, hcall⟩ := List.mem_filterMap.1 (List.of_mem_zip hrow).1
  obtain ⟨leaf, hleaf, hisLeaf, hspan⟩ := Tree.exists_leaf hcall (span_mem_of_mem_callPatches hpatch)
  have hmem : leaf ∈ Tree.nodesIn program.body :=
    Tree.mem_nodesIn_of_mem htree (Tree.mem_nodesIn.2 ⟨leaf, hleaf, leaf.self_mem_nodes⟩)
  rw [hspan]
  exact ⟨(h.nodes leaf hmem).solid hisLeaf, leaf, hmem, rfl⟩

/-- The patches of a script stand apart, on whole characters. -/
theorem WellSet.suit (h : program.WellSet source) (hlength : program.found.requires.length = dependencies.length) :
    Patch.Suit source (program.found.patches dependencies) := by
  have hcalls : ((program.found.requires.zip dependencies).flatMap fun (call, d) => callPatches call d.id).Pairwise
      fun p q => p.span.Disjoint q.span := by
    refine disjoint_callPatches hlength (fun call hcall => ?_) (Tree.disjoint_requires h.nodes h.disjoint)
    obtain ⟨tree, htree, hcall⟩ := List.mem_filterMap.1 hcall
    exact (h.nodes tree htree).disjoint_spans hcall
  cases hline : program.hashbang with
  | none =>
    have hpatches : program.found.patches dependencies =
        (program.found.requires.zip dependencies).flatMap fun (call, d) => callPatches call d.id := by
      simp [Scan.patches, found, hline]
    rw [hpatches]
    exact Patch.suit_of_disjoint (fun patch hpatch => (h.exists_leaf hpatch).1) hcalls
  | some line =>
    obtain ⟨start, stop⟩ := line
    obtain ⟨hstart, hstop, hmarks, hafter⟩ := h.hashbang (start, stop) hline
    subst hstart
    have hpatches : program.found.patches dependencies = ⟨0, 2, "//"⟩ ::
        (program.found.requires.zip dependencies).flatMap fun (call, d) => callPatches call d.id := by
      simp [Scan.patches, found, hline, hashbangPatch]
    rw [hpatches]
    refine Patch.suit_of_disjoint ?_ (List.pairwise_cons.2 ⟨fun patch hpatch => ?_, hcalls⟩)
    · rw [List.forall_mem_cons]
      exact ⟨solid_hashbang hmarks, fun patch hpatch => (h.exists_leaf hpatch).1⟩
    · obtain ⟨-, leaf, hleaf, hspan⟩ := h.exists_leaf hpatch
      have := hafter leaf hleaf
      rw [hspan]
      simp only [Span.Disjoint, Patch.span, Tree.span]
      omega

section Edits

variable {files : Files} {r : Resolver} {root path : Path}

theorem edit_of_mem_patches
    (h : program.found.requires.Forall₂ (fun call d => dependency files r root path call = .ok d) dependencies)
    {patch : Patch} (hpatch : patch ∈ program.found.patches dependencies) :
    program.Edit (r.resolve files (path.parent?.getD root)) root patch := by
  rcases List.mem_append.1 hpatch with hpatch | hpatch
  · obtain ⟨span, hspan, rfl⟩ := Option.map_eq_some_iff.1 (Option.mem_toList.1 hpatch)
    obtain ⟨⟨start, stop⟩, hline, rfl⟩ := Option.map_eq_some_iff.1 hspan
    exact .hashbang hline
  · obtain ⟨⟨call, d⟩, hrow, hpatch⟩ := List.mem_flatMap.1 hpatch
    obtain ⟨tree, htree, hcall⟩ := List.mem_filterMap.1 (List.of_mem_zip hrow).1
    obtain ⟨callee, argument, hasks, hcallee, hargument⟩ := Tree.require?_eq_some_iff.1 hcall
    obtain ⟨hspecifier, hresolve, hid⟩ := dependency_ok (List.forall₂_zip h hrow)
    rw [hspecifier] at hresolve
    simp only [callPatches, List.mem_cons, List.not_mem_nil, or_false, hcallee, hargument, hid] at hpatch
    rcases hpatch with rfl | rfl
    · exact .callee htree hasks
    · exact .argument htree hasks hresolve

theorem exists_callPatches
    (h : program.found.requires.Forall₂ (fun call d => dependency files r root path call = .ok d) dependencies)
    {tree callee argument : Tree} {specifier : String} (htree : tree ∈ Tree.nodesIn program.body)
    (hasks : tree.Asks callee argument specifier) :
    ∃ d, dependency files r root path ⟨specifier, callee.span, argument.span⟩ = .ok d ∧
      ∀ patch ∈ callPatches ⟨specifier, callee.span, argument.span⟩ d.id,
        patch ∈ program.found.patches dependencies := by
  have hmem : ⟨specifier, callee.span, argument.span⟩ ∈ program.found.requires :=
    List.mem_filterMap.2 ⟨tree, htree, hasks.require?_eq⟩
  rw [← List.map_fst_zip (Nat.le_of_eq h.length_eq)] at hmem
  obtain ⟨⟨call, d⟩, hrow, rfl⟩ := List.mem_map.1 hmem
  exact ⟨d, List.forall₂_zip h hrow, fun patch hpatch =>
    List.mem_append_right _ (List.mem_flatMap.2 ⟨_, hrow, hpatch⟩)⟩

theorem mem_patches_of_edit
    (h : program.found.requires.Forall₂ (fun call d => dependency files r root path call = .ok d) dependencies)
    {patch : Patch} (hedit : program.Edit (r.resolve files (path.parent?.getD root)) root patch) :
    patch ∈ program.found.patches dependencies := by
  cases hedit with
  | hashbang hline => exact List.mem_append_left _ (by simp [found, hline, hashbangPatch])
  | callee htree hasks =>
    obtain ⟨d, -, hpatches⟩ := exists_callPatches h htree hasks
    exact hpatches _ List.mem_cons_self
  | argument htree hasks hfound =>
    obtain ⟨d, hd, hpatches⟩ := exists_callPatches h htree hasks
    obtain ⟨hspecifier, hresolve, hid⟩ := dependency_ok hd
    rw [hspecifier, hfound] at hresolve
    cases hresolve
    rw [← hid]
    exact hpatches _ (List.mem_cons_of_mem _ List.mem_cons_self)

theorem forall₂_filter {α β γ : Type} {f : α → Option β} {keep : α → Bool} {S : β → γ → Prop} {l : List α}
    {n : List γ} (hkeep : ∀ a ∈ l, (f a).isSome = keep a) (h : (l.filterMap f).Forall₂ S n) :
    (l.filter keep).Forall₂ (fun a c => ∃ b, f a = some b ∧ S b c) n := by
  induction l generalizing n with
  | nil =>
    cases h
    exact .nil
  | cons a l ih =>
    rw [List.forall_mem_cons] at hkeep
    cases ha : f a with
    | none =>
      rw [List.filterMap_cons_none ha] at h
      rw [List.filter_cons_of_neg (by simp [← hkeep.1, ha])]
      exact ih hkeep.2 h
    | some b =>
      rw [List.filterMap_cons_some ha, List.forall₂_cons_left_iff] at h
      obtain ⟨c, rest, hbc, hrest, rfl⟩ := h
      rw [List.filter_cons_of_pos (by simp [← hkeep.1, ha])]
      exact .cons ⟨b, ha, hbc⟩ (ih hkeep.2 hrest)

theorem Met.forall₂_calls (hmet : program.Met (r.resolve files (path.parent?.getD root)))
    (h : program.found.requires.Forall₂ (fun call d => dependency files r root path call = .ok d) dependencies) :
    ((Tree.nodesIn program.body).filter Tree.callsRequire).Forall₂ (fun tree d => ∃ callee argument,
      tree.Asks callee argument d.specifier ∧ r.resolve files (path.parent?.getD root) d.specifier = .ok d.path ∧
        d.id = Path.idFrom root d.path) dependencies := by
  have hkeep : ∀ tree ∈ Tree.nodesIn program.body, tree.require?.isSome = tree.callsRequire := by
    intro tree htree
    rw [← tree.isSome_requireCall?, hmet.requireCall?_eq htree, Option.isSome_map]
  refine (forall₂_filter hkeep h).imp ?_
  rintro tree d ⟨call, hcall, hd⟩
  obtain ⟨callee, argument, hasks, -⟩ := Tree.require?_eq_some_iff.1 hcall
  obtain ⟨hspecifier, hresolve, hid⟩ := dependency_ok hd
  exact ⟨callee, argument, hspecifier ▸ hasks, hresolve, hid⟩

theorem Met.exists_dependencies (hmet : program.Met (r.resolve files (path.parent?.getD root))) :
    ∃ dependencies, program.found.requires.mapM (dependency files r root path) = .ok dependencies := by
  cases hmap : program.found.requires.mapM (dependency files r root path) with
  | ok dependencies => exact ⟨dependencies, rfl⟩
  | error e =>
    obtain ⟨call, hcall, hfail⟩ := exists_of_mapM_eq_error hmap
    obtain ⟨found, hfound⟩ := hmet.exists_resolved hcall
    rw [dependency, hfound] at hfail
    cases hfail

end Edits

/-- A script with exactly its edits made, and nothing else: the patches stand apart, the text is the one
that they give one by one, and what they do not cover stays. The dependencies stand for the calls. -/
structure Rewritten (program : Program) (source : String) (resolve : String → Except Error Path) (root : Path)
    (patches : List Patch) (x : Extraction) : Prop where
  suit : Patch.Suit source patches
  edits : ∀ patch, patch ∈ patches ↔ program.Edit resolve root patch
  spliced : Patch.splice? source patches = some x.text
  one_by_one : Text.bytes x.text = (Patch.backward patches).foldl Patch.replace (Text.bytes source)
  trail : ∃ steps, Patch.Trail source patches x.text steps
  dependencies : ((Tree.nodesIn program.body).filter Tree.callsRequire).Forall₂ (fun tree d => ∃ callee argument,
    tree.Asks callee argument d.specifier ∧ resolve d.specifier = .ok d.path ∧ d.id = Path.idFrom root d.path)
    x.dependencies

/-- A script whose nodes are well set and whose calls of `require` can be met is rewritten, whatever read
it from its source. -/
theorem extraction_rewrites {program : Program} {source : String} (hset : program.WellSet source) (files : Files)
    (r : Resolver) (root path : Path) (hmet : program.Met (r.resolve files (path.parent?.getD root))) :
    ∃ found x, program.scan path source = .ok found ∧ found.extraction files r root path source = .ok x ∧
      (Program.read (Dialect.ofPath path) source = some program → extract files r root path source = .ok x) ∧
      program.Rewritten source (r.resolve files (path.parent?.getD root)) root (found.patches x.dependencies) x := by
  obtain ⟨dependencies, hmap⟩ := hmet.exists_dependencies
  have hdependencies := mapM_eq_ok_iff.1 hmap
  have hsuit := hset.suit hdependencies.length_eq
  obtain ⟨text, htext, hbytes⟩ := hsuit.exists_splice?
  have hscan := hmet.scan_eq path source
  have hextraction : program.found.extraction files r root path source = .ok ⟨text, dependencies⟩ := by
    rw [Scan.extraction, hmap]
    simp only [bind, Except.bind, htext]
    rfl
  refine ⟨program.found, ⟨text, dependencies⟩, hscan, hextraction, fun hread => ?_, ?_⟩
  · rw [extract, Bundler.scan, hread]
    simp only [hscan]
    exact hextraction
  · exact {
      suit := hsuit
      edits := fun patch => ⟨edit_of_mem_patches hdependencies, mem_patches_of_edit hdependencies⟩
      spliced := htext
      one_by_one := hbytes.trans hsuit.foldl_replace.symm
      trail := ⟨_, hsuit.trail hbytes⟩
      dependencies := hmet.forall₂_calls hdependencies }

/-! ### An example: a call inside a call -/

/-- A script with a first line for the shell, whose two calls are nested. -/
def nestedSource : String := "#!é\nrequire('./é', require(`./b`))"

def nested : Program where
  hashbang := some (0, 4)
  body := [.node .other 5 36 [.node (.call 0) 5 36 [.node (.name "require") 5 12 [], .node (.text "./é") 13 19 [],
    .node (.call 0) 21 35 [.node (.name "require") 21 28 [], .node (.template "./b") 29 34 []]]]]

def nestedFiles : Files where
  tree := .folder [("app", .folder [("é.js", .file "".toUTF8), ("b.json", .file "".toUTF8)])]

def nestedResult : Extraction where
  text := "//é\n__rpack_require__(\"./é.js\", __rpack_require__(\"./b.json\"))"
  dependencies := [⟨"./é", "./é.js", ⟨"/app/é.js"⟩⟩, ⟨"./b", "./b.json", ⟨"/app/b.json"⟩⟩]

theorem nested_met : nested.Met (Resolver.resolve {} nestedFiles ⟨"/app"⟩) := by
  intro tree htree hcalls
  simp only [nested, Tree.nodesIn, Tree.nodes, List.append_nil, List.cons_append, List.nil_append, List.mem_cons,
    List.not_mem_nil, or_false] at htree
  -- Only two of the seven nodes call `require`.
  rcases htree with rfl | rfl | rfl | rfl | rfl | rfl | rfl <;> try cases hcalls
  · exact ⟨_, _, _, ⟨"/app/é.js"⟩, .call rfl rfl rfl, by decide +kernel⟩
  · exact ⟨_, _, _, ⟨"/app/b.json"⟩, .call rfl rfl rfl, by decide +kernel⟩

theorem extraction_rewrites_nested :
    nested.WellSet nestedSource ∧ nested.Met (Resolver.resolve {} nestedFiles ⟨"/app"⟩) ∧
      extract nestedFiles {} ⟨"/app"⟩ ⟨"/app/a.js"⟩ nestedSource = .ok nestedResult ∧
      ∃ patches,
        nested.Rewritten nestedSource (Resolver.resolve {} nestedFiles ⟨"/app"⟩) ⟨"/app"⟩ patches nestedResult := by
  have hset : nested.WellSet nestedSource := by decide +kernel
  have hread : Program.read (Dialect.ofPath ⟨"/app/a.js"⟩) nestedSource = some nested := by rfl
  have hparent : (Path.parent? ⟨"/app/a.js"⟩).getD ⟨"/app"⟩ = ⟨"/app"⟩ := by decide +kernel
  have hresult : extract nestedFiles {} ⟨"/app"⟩ ⟨"/app/a.js"⟩ nestedSource = .ok nestedResult := by decide +kernel
  obtain ⟨found, x, -, -, hextract, hrewritten⟩ :=
    extraction_rewrites hset nestedFiles {} ⟨"/app"⟩ ⟨"/app/a.js"⟩ (hparent.symm ▸ nested_met)
  obtain rfl : nestedResult = x := by simpa [hresult] using hextract hread
  exact ⟨hset, nested_met, hresult, _, hparent ▸ hrewritten⟩

end Script.Program

end Bundler
