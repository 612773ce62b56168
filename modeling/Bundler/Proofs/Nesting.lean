import Bundler.Requires
import Mathlib.Data.List.Basic
import Mathlib.Tactic.MkIffOfInductiveProp

/-!
# Nodes of a script

The nodes of a script in the order in which they are visited. Where every node stands inside the one
around it and apart from its neighbours, two nodes are nested or have no byte in common.
-/

namespace Bundler
open Script

/-! ## Spans -/

namespace Span

/-- Two spans have no byte in common. -/
def Disjoint (a b : Span) : Prop := min a.stop b.stop ≤ max a.start b.start

/-- A span lies inside another one. -/
def Within (a b : Span) : Prop := b.start ≤ a.start ∧ a.stop ≤ b.stop

instance : DecidableRel Disjoint := fun a b => inferInstanceAs (Decidable (min a.stop b.stop ≤ max a.start b.start))

instance : DecidableRel Within := fun a b => inferInstanceAs (Decidable (b.start ≤ a.start ∧ a.stop ≤ b.stop))

theorem Disjoint.symm {a b : Span} (h : a.Disjoint b) : b.Disjoint a := by
  unfold Disjoint at *
  omega

theorem Disjoint.mono {a b a' b' : Span} (h : a.Disjoint b) (ha : a'.Within a) (hb : b'.Within b) :
    a'.Disjoint b' := by
  unfold Disjoint Within at *
  omega

instance : Std.Symm fun a b : Tree => a.span.Disjoint b.span := ⟨fun _ _ => Disjoint.symm⟩

theorem Within.refl (a : Span) : a.Within a := ⟨Nat.le_refl _, Nat.le_refl _⟩

theorem Within.trans {a b c : Span} (hab : a.Within b) (hbc : b.Within c) : a.Within c := by
  unfold Within at *
  omega

end Span

/-! ## Nodes -/

namespace Script.Tree

mutual

/-- The nodes of a tree, each before those inside it and these in the order in which they stand. -/
def nodes : Tree → List Tree
  | .node shape start stop children => .node shape start stop children :: nodesIn children

def nodesIn : List Tree → List Tree
  | [] => []
  | tree :: rest => tree.nodes ++ nodesIn rest

end

theorem nodes_eq (tree : Tree) : tree.nodes = tree :: nodesIn tree.children := by
  cases tree
  rw [nodes]
  rfl

theorem nodesIn_eq_flatMap (trees : List Tree) : nodesIn trees = trees.flatMap nodes := by
  induction trees with
  | nil => rfl
  | cons tree rest ih => rw [nodesIn, ih, List.flatMap_cons]

theorem mem_nodesIn {tree : Tree} {trees : List Tree} : tree ∈ nodesIn trees ↔ ∃ top ∈ trees, tree ∈ top.nodes := by
  rw [nodesIn_eq_flatMap, List.mem_flatMap]

theorem self_mem_nodes (tree : Tree) : tree ∈ tree.nodes := by
  rw [nodes_eq]
  exact List.mem_cons_self

mutual

theorem mem_nodes_of_mem {node inner : Tree} : ∀ {tree : Tree}, node ∈ tree.nodes →
    inner ∈ nodesIn node.children → inner ∈ tree.nodes
  | .node shape start stop children, hnode, hinner => by
    rw [nodes, List.mem_cons] at hnode ⊢
    rcases hnode with rfl | hnode
    · exact .inr hinner
    · exact .inr (mem_nodesIn_of_mem hnode hinner)

theorem mem_nodesIn_of_mem {node inner : Tree} : ∀ {trees : List Tree}, node ∈ nodesIn trees →
    inner ∈ nodesIn node.children → inner ∈ nodesIn trees
  | tree :: rest, hnode, hinner => by
    rw [nodesIn, List.mem_append] at hnode ⊢
    exact hnode.imp (mem_nodes_of_mem · hinner) (mem_nodesIn_of_mem · hinner)

end

mutual

theorem requires_eq_filterMap : ∀ tree : Tree, tree.requires = tree.nodes.filterMap requireCall?
  | .node shape start stop children => by
    rw [requires, nodes, List.filterMap_cons, requiresIn_eq_filterMap children]
    cases requireCall? (.node shape start stop children) <;> rfl

theorem requiresIn_eq_filterMap : ∀ trees : List Tree, requiresIn trees = (nodesIn trees).filterMap requireCall?
  | [] => rfl
  | tree :: rest => by
    rw [requiresIn, nodesIn, List.filterMap_append, requires_eq_filterMap tree, requiresIn_eq_filterMap rest]

end

/-- A name or a literal. -/
def isLeaf (tree : Tree) : Bool :=
  match tree.shape with
  | .name _ | .text _ | .template _ => true
  | _ => false

/-- Where a node stands in a source: on whole characters, around the nodes in it, which stand apart from
each other. A name or a literal covers something, and no node stands in it. -/
@[mk_iff] structure WellSet (source : String) (tree : Tree) : Prop where
  start_valid : String.Pos.Raw.IsValid source ⟨tree.start⟩
  stop_valid : String.Pos.Raw.IsValid source ⟨tree.stop⟩
  inside : ∀ child ∈ tree.children, child.span.Within tree.span
  disjoint : tree.children.Pairwise fun a b => a.span.Disjoint b.span
  leaf : tree.isLeaf → tree.start < tree.stop ∧ tree.children = []

instance (source : String) (tree : Tree) : Decidable (tree.WellSet source) :=
  decidable_of_iff' _ (wellSet_iff source tree)

variable {source : String}

mutual

theorem within_of_mem_nodes {node : Tree} : ∀ {tree : Tree}, (∀ n ∈ tree.nodes, n.WellSet source) →
    node ∈ tree.nodes → node.span.Within tree.span
  | .node shape start stop children, hset, hnode => by
    rw [nodes, List.forall_mem_cons] at hset
    rw [nodes, List.mem_cons] at hnode
    rcases hnode with rfl | hnode
    · exact .refl _
    · obtain ⟨child, hchild, hwithin⟩ := within_of_mem_nodesIn hset.2 hnode
      exact hwithin.trans (hset.1.inside child hchild)

theorem within_of_mem_nodesIn {node : Tree} : ∀ {trees : List Tree}, (∀ n ∈ nodesIn trees, n.WellSet source) →
    node ∈ nodesIn trees → ∃ top ∈ trees, node.span.Within top.span
  | tree :: rest, hset, hnode => by
    rw [nodesIn, List.forall_mem_append] at hset
    rw [nodesIn, List.mem_append] at hnode
    rcases hnode with hnode | hnode
    · exact ⟨tree, List.mem_cons_self, within_of_mem_nodes hset.1 hnode⟩
    · obtain ⟨top, htop, hwithin⟩ := within_of_mem_nodesIn hset.2 hnode
      exact ⟨top, List.mem_cons_of_mem _ htop, hwithin⟩

end

/-- The second of two nodes stands in the first one, or they have no byte in common. -/
def Nested (a b : Tree) : Prop := b ∈ nodesIn a.children ∨ a.span.Disjoint b.span

mutual

theorem pairwise_nodes : ∀ {tree : Tree}, (∀ n ∈ tree.nodes, n.WellSet source) → tree.nodes.Pairwise Nested
  | .node shape start stop children, hset => by
    rw [nodes] at hset ⊢
    rw [List.forall_mem_cons] at hset
    exact List.pairwise_cons.2 ⟨fun b hb => .inl hb, pairwise_nodesIn hset.2 hset.1.disjoint⟩

theorem pairwise_nodesIn : ∀ {trees : List Tree}, (∀ n ∈ nodesIn trees, n.WellSet source) →
    (trees.Pairwise fun a b => a.span.Disjoint b.span) → (nodesIn trees).Pairwise Nested
  | [], _, _ => List.Pairwise.nil
  | tree :: rest, hset, hdisjoint => by
    rw [nodesIn] at hset ⊢
    rw [List.forall_mem_append] at hset
    obtain ⟨htree, hrest⟩ := List.pairwise_cons.1 hdisjoint
    refine List.pairwise_append.2 ⟨pairwise_nodes hset.1, pairwise_nodesIn hset.2 hrest, fun a ha b hb => .inr ?_⟩
    obtain ⟨top, htop, hb⟩ := within_of_mem_nodesIn hset.2 hb
    exact (htree top htop).mono (within_of_mem_nodes hset.1 ha) hb

end

end Script.Tree
end Bundler
