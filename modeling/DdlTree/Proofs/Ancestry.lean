import DdlTree.Outline
import DdlTree.Proofs.Tree
import Mathlib.Data.List.Chain

/-! # Ancestors

The walk over a tree in which each node comes with the nodes above it. How deep a tree is, how far a
line of its outline is indented, and how many expressions surround an expression are all read off
from these.
-/

namespace DdlTree

namespace Node

/-- What holds of a node if it holds of its children holds of every node. -/
@[elab_as_elim]
theorem treeInduction {motive : Node → Prop}
    (step : ∀ node : Node, (∀ child ∈ node.children, motive child) → motive node) (node : Node) :
    motive node :=
  step node fun child _ => treeInduction step child
termination_by node.size
decreasing_by exact size_lt_of_mem_children ‹_›

/-- A node and all that lies below it, in the order of the walk, each with the nodes above it, the
    nearest one first. The nodes above the node itself are given. -/
def ancestry (above : List Node) (node : Node) : List (List Node × Node) :=
  (above, node) :: node.children.attach.flatMap fun ⟨child, _⟩ => child.ancestry (node :: above)
termination_by node.size
decreasing_by exact size_lt_of_mem_children ‹_›

theorem ancestry_eq (above : List Node) (node : Node) :
    node.ancestry above
      = (above, node) :: node.children.flatMap (ancestry (node :: above)) := by
  rw [ancestry]
  simp only [List.flatMap_subtype, List.unattach_attach]

/-- The nodes are those of the walk, in its order. -/
theorem map_snd_ancestry (above : List Node) (node : Node) :
    (node.ancestry above).map Prod.snd = node.dfs := by
  rw [dfs_eq_preorder]
  induction node using treeInduction generalizing above with
  | step node ih =>
      rw [ancestry_eq, preorder_eq, List.map_cons, List.map_flatMap]
      exact congrArg _ (List.flatMap_congr fun child mem => ih child mem (node :: above))

theorem mem_dfs_of_mem_ancestry {above : List Node} {node : Node} {entry : List Node × Node}
    (mem : entry ∈ node.ancestry above) : entry.2 ∈ node.dfs :=
  map_snd_ancestry above node ▸ List.mem_map_of_mem mem

/-- The nodes above a node lead from child to parent up to the top. -/
theorem isChain_of_mem_ancestry {above : List Node} {node : Node} {entry : List Node × Node}
    (chain : (node :: above).IsChain fun child parent => child ∈ parent.children)
    (mem : entry ∈ node.ancestry above) :
    (entry.2 :: entry.1).IsChain (fun child parent => child ∈ parent.children) ∧
      node :: above <:+ entry.2 :: entry.1 := by
  induction node using treeInduction generalizing above with
  | step node ih =>
      rw [ancestry_eq, List.mem_cons, List.mem_flatMap] at mem
      rcases mem with rfl | ⟨child, isChild, below⟩
      · exact ⟨chain, List.suffix_refl _⟩
      · have chainBelow := List.isChain_cons_cons.mpr ⟨isChild, chain⟩
        obtain ⟨longer, ends⟩ := ih child isChild chainBelow below
        exact ⟨longer, (List.suffix_cons child _).trans ends⟩

/-- The levels of an outline count the nodes above. -/
theorem leveled_eq_map_ancestry (above : List Node) (node : Node) :
    node.leveled above.length
      = (node.ancestry above).map fun entry => (entry.1.length, entry.2) := by
  induction node using treeInduction generalizing above with
  | step node ih =>
      have below : ∀ child ∈ node.children, child.leveled (above.length + 1)
          = (child.ancestry (node :: above)).map fun entry => (entry.1.length, entry.2) :=
        fun child mem => ih child mem (node :: above)
      rw [leveled, ancestry_eq, List.map_cons, List.map_flatMap]
      simp only [List.flatMap_subtype, List.unattach_attach]
      exact congrArg _ (List.flatMap_congr below)

/-- A tree is less deep than a limit exactly if no node has that many nodes above it. -/
theorem forall_length_lt_iff {above : List Node} {node : Node} {limit : Nat} :
    (∀ entry ∈ node.ancestry above, entry.1.length < limit) ↔
      above.length + node.depth < limit := by
  induction node using treeInduction generalizing above with
  | step node ih =>
      rw [ancestry_eq, depth_lt_iff, List.forall_mem_cons, List.forall_mem_flatMap]
      exact and_congr_right fun _ => forall₂_congr fun child mem => ih child mem

end Node

end DdlTree
