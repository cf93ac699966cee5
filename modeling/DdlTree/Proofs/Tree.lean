import DdlTree.Node.Walk

/-! # Trees of nodes

A node with all that lies below it, seen through its children: membership in a walk, and depth, each
reduced to the children of one node. The walk with a stack visits the same nodes as the recursive
one, in the same order.
-/

namespace DdlTree

namespace Node

theorem preorder_eq (node : Node) : node.preorder = node :: node.children.flatMap preorder := by
  rw [preorder]
  simp only [List.flatMap_subtype, List.unattach_attach]

theorem mem_preorder {part node : Node} :
    part ∈ node.preorder ↔ part = node ∨ ∃ child ∈ node.children, part ∈ child.preorder := by
  rw [preorder_eq, List.mem_cons, List.mem_flatMap]

/-- A node lies above the bound exactly if its children lie above the next one. -/
theorem depth_lt_iff {node : Node} {level limit : Nat} :
    level + node.depth < limit ↔
      level < limit ∧ ∀ child ∈ node.children, level + 1 + child.depth < limit := by
  rw [depth]
  simp only [List.map_subtype, List.unattach_attach]
  induction node.children with
  | nil => simp
  | cons child rest ih =>
      have split (below : Nat) : level + max (child.depth + 1) below < limit ↔
          level + 1 + child.depth < limit ∧ level + below < limit := by omega
      simp only [List.map_cons, List.foldr_cons, List.forall_mem_cons, split, ih]
      exact and_left_comm

end Node

/-- What is still to come of a walk is what lies below each node on the stack, one after another. -/
theorem Walk.toList_eq (walk : Walk) : walk.toList = walk.stack.flatMap Node.preorder := by
  induction size : walk.remaining using Nat.strongRecOn generalizing walk with
  | ind n ih =>
      subst size
      obtain ⟨stack⟩ := walk
      cases stack with
      | nil => rw [toList]; rfl
      | cons top rest =>
          have step : (⟨top :: rest⟩ : Walk).next? = some (top, ⟨top.children ++ rest⟩) := rfl
          have shorter : (⟨top.children ++ rest⟩ : Walk).remaining
              < (⟨top :: rest⟩ : Walk).remaining := by
            rw [remaining_next? step]
            exact Nat.lt_succ_self _
          rw [toList]
          simp only [next?, ih _ shorter ⟨top.children ++ rest⟩ rfl, List.flatMap_append,
            List.flatMap_cons, Node.preorder_eq top, List.cons_append]

theorem Node.dfs_eq_preorder (node : Node) : node.dfs = node.preorder := by
  rw [dfs, Walk.toList_eq, Walk.start, List.flatMap_singleton]

/-- What the nodes of a tree hold themselves, in the order of the walk. -/
def Node.collect {α : Type} (own : Node → List α) (node : Node) : List α :=
  node.dfs.flatMap own

/-- A tree holds what its root holds and then what each of the trees below holds. -/
theorem Node.collect_eq {α : Type} (own : Node → List α) (node : Node) :
    node.collect own = own node ++ node.children.flatMap (collect own) := by
  have collected : collect own = fun node => node.preorder.flatMap own := by
    funext node
    rw [collect, dfs_eq_preorder]
  simp only [collected]
  rw [preorder_eq, List.flatMap_cons, List.flatMap_assoc]

end DdlTree
