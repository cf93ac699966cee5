import DdlTree.Proofs.Ancestry
import Mathlib.Order.Bounds.Defs

/-! # The walk with a stack

A walk takes the next node off its stack and puts the children of that node in its place. It comes
to an end, and what it has yielded by then is the tree in order: each node, then the trees below it
from left to right. So every part of the tree is one stretch of the walk, and a search of the walk
is a search of the tree.
-/

namespace DdlTree

/-! ## Steps of a walk -/

/-- A walk yields these nodes, one at each step, and is then at its end. -/
inductive Walk.Yields : Walk → List Node → Prop where
  | done {walk} (ended : walk.next? = none) : Yields walk []
  | step {walk after node rest} (next : walk.next? = some (node, after))
    (later : Yields after rest) : Yields walk (node :: rest)

namespace Walk

theorem yields_toList (walk : Walk) : walk.Yields walk.toList := by
  induction size : walk.remaining using Nat.strongRecOn generalizing walk with
  | ind n ih =>
      rw [toList.eq_def]
      split
      · rename_i ended
        exact .done ended
      · rename_i node after next
        have shorter : after.remaining < n := by
          have taken := remaining_next? next
          omega
        exact .step next (ih after.remaining shorter after rfl)

/-- A walk yields nothing else. -/
theorem Yields.eq_toList {walk : Walk} {nodes : List Node} (yields : walk.Yields nodes) :
    nodes = walk.toList := by
  induction yields with
  | done ended =>
      rw [toList.eq_def]
      split
      · rfl
      · simp_all
  | step next later ih =>
      rw [toList.eq_def]
      split
      · simp_all
      · simp_all

theorem yields_iff {walk : Walk} {nodes : List Node} :
    walk.Yields nodes ↔ nodes = walk.toList :=
  ⟨Yields.eq_toList, fun same => same ▸ walk.yields_toList⟩

end Walk

/-! ## Parts of a walk -/

namespace Node

theorem length_preorder (node : Node) : node.preorder.length = node.size := by
  induction node using treeInduction with
  | step node ih =>
      have below (nodes : List Node) (each : ∀ child ∈ nodes, child.preorder.length = child.size) :
          (nodes.flatMap preorder).length = sizeOfAll size nodes := by
        induction nodes with
        | nil => rfl
        | cons child rest ihRest =>
            rw [List.forall_mem_cons] at each
            rw [List.flatMap_cons, List.length_append, each.1, ihRest each.2, sizeOfAll]
      rw [preorder_eq, List.length_cons, below _ ih, size_eq, Nat.add_comm]

/-- An item of lists that are put together lies in one of them, and the rest of that list comes
    next. -/
private theorem exists_prefix_drop_flatMap {α β : Type} {f : α → List β} {items : List α}
    {position : Nat} {found : β} (at_position : (items.flatMap f)[position]? = some found) :
    ∃ item ∈ items, ∃ inner, (f item)[inner]? = some found ∧
      (f item).drop inner <+: (items.flatMap f).drop position := by
  induction items generalizing position with
  | nil => simp at at_position
  | cons item rest ih =>
      rw [List.flatMap_cons] at at_position ⊢
      rcases Nat.lt_or_ge position (f item).length with within | beyond
      · rw [List.getElem?_append_left within] at at_position
        refine ⟨item, List.mem_cons_self, position, at_position, ?_⟩
        rw [List.drop_append_of_le_length within.le]
        exact List.prefix_append _ _
      · rw [List.getElem?_append_right beyond] at at_position
        obtain ⟨holder, mem, inner, isFound, starts⟩ := ih at_position
        refine ⟨holder, List.mem_cons_of_mem item mem, inner, isFound, ?_⟩
        rwa [List.drop_append, List.drop_eq_nil_of_le beyond, List.nil_append]

/-- The tree below a node is what comes next when the walk is at the node. -/
theorem preorder_prefix_drop {node part : Node} {position : Nat}
    (found : node.preorder[position]? = some part) :
    part.preorder <+: node.preorder.drop position := by
  induction node using treeInduction generalizing position with
  | step node ih =>
      cases position with
      | zero =>
          rw [preorder_eq, List.getElem?_cons_zero] at found
          obtain rfl := Option.some.inj found
          exact List.prefix_refl _
      | succ position =>
          rw [preorder_eq, List.getElem?_cons_succ] at found
          obtain ⟨child, isChild, inner, isPart, starts⟩ := exists_prefix_drop_flatMap found
          rw [preorder_eq node, List.drop_succ_cons]
          exact (ih child isChild isPart).trans starts

/-- The depth is how many nodes lie above the deepest node. -/
theorem isGreatest_depth (node : Node) :
    IsGreatest {count | ∃ entry ∈ node.ancestry [], entry.1.length = count} node.depth := by
  have bound : ∀ entry ∈ node.ancestry [], entry.1.length ≤ node.depth := by
    intro entry mem
    have below : ([] : List Node).length + node.depth < node.depth + 1 := by simp
    exact Nat.lt_succ_iff.mp (forall_length_lt_iff.mpr below entry mem)
  constructor
  · -- if no node were that deep, the whole tree would be less deep
    by_contra none
    have shallow : ∀ entry ∈ node.ancestry [], entry.1.length < node.depth :=
      fun entry mem => lt_of_le_of_ne (bound entry mem) fun same => none ⟨entry, mem, same⟩
    have less := forall_length_lt_iff.mp shallow
    simp at less
  · rintro count ⟨entry, mem, rfl⟩
    exact bound entry mem

end Node

/-! ## Searches -/

/-- The walk with a stack is the tree in order. It ends, having yielded the root and then what the
    walks over the children yield, from left to right; every node of it is followed by the rest of
    its own tree, as many nodes as the tree has. Each node comes with its ancestors, a way from
    child to parent up to the root, and the depth of the tree is how many ancestors a node has at
    most. A search finds the first node with a property, all of them in order, whether there is one,
    and how many. -/
theorem walk_is_preorder (root : Node) :
    (∀ nodes, (Walk.start root).Yields nodes ↔ nodes = root.dfs) ∧
    root.dfs = root :: root.children.flatMap Node.dfs ∧
    (∀ position part, root.dfs[position]? = some part →
      part.dfs = (root.dfs.drop position).take part.size ∧ part.dfs.length = part.size) ∧
    ((root.ancestry []).map Prod.snd = root.dfs ∧
      (∀ entry ∈ root.ancestry [],
        (entry.2 :: entry.1).IsChain (fun child parent => child ∈ parent.children) ∧
          [root] <:+ entry.2 :: entry.1) ∧
      IsGreatest {count | ∃ entry ∈ root.ancestry [], entry.1.length = count} root.depth) ∧
    ∀ wanted : Node → Bool,
      (∀ part, root.find? wanted = some part ↔ ∃ before after,
        root.dfs = before ++ part :: after ∧ wanted part ∧ ∀ earlier ∈ before, ¬wanted earlier) ∧
      (root.find? wanted = none ↔ ∀ part ∈ root.dfs, ¬wanted part) ∧
      root.findAll wanted = root.dfs.filter wanted ∧
      (root.contains wanted ↔ ∃ part ∈ root.dfs, wanted part) ∧
      root.count wanted = (root.findAll wanted).length := by
  have inOrder : Node.dfs = Node.preorder := funext Node.dfs_eq_preorder
  refine ⟨fun nodes => Walk.yields_iff, ?_, fun position part found => ?_, ?_, fun wanted => ?_⟩
  · rw [inOrder, Node.preorder_eq]
  · rw [inOrder] at found ⊢
    have starts := Node.preorder_prefix_drop found
    rw [List.prefix_iff_eq_take, part.length_preorder] at starts
    exact ⟨starts, part.length_preorder⟩
  · exact ⟨root.map_snd_ancestry [],
      fun entry mem => Node.isChain_of_mem_ancestry (List.isChain_singleton root) mem,
      root.isGreatest_depth⟩
  · refine ⟨fun part => ?_, ?_, rfl, ?_, ?_⟩
    · rw [Node.find?, List.find?_eq_some_iff_append]
      constructor
      · rintro ⟨isWanted, before, after, split, earlier⟩
        exact ⟨before, after, split, isWanted, by simpa using earlier⟩
      · rintro ⟨before, after, split, isWanted, earlier⟩
        exact ⟨isWanted, before, after, split, by simpa using earlier⟩
    · rw [Node.find?, List.find?_eq_none]
    · rw [Node.contains, List.any_eq_true]
    · rw [Node.count, List.countP_eq_length_filter, Node.findAll]

end DdlTree
