import DdlTree.Proofs.CopyWalk

/-! # Copies are exact

Whether a session copies a tree can be told from the tree: by its depth, by the extensions that its
nodes use, and by the keys of its options. The rules of the constructors are no reason to refuse a
copy, because a reachable tree keeps them. A copy that succeeds is the tree itself, down to the
positions of all its nodes.
-/

namespace DdlTree

/-! ## Acceptance of whole trees -/

/-- A session accepts a tree with `level` nodes above it for a copy. -/
structure Session.Accepts (session : Session) (node : Node) (level : Nat := 0) : Prop where
  shallow : ∀ limit, session.maxCopyDepth = some limit → level + node.depth < limit
  enabled : ∀ part ∈ node.dfs, session.Enables part.features
  plain : ∀ part ∈ node.dfs, ∀ bag ∈ part.options?, bag.Plain

/-- A tree is accepted exactly if its root is and the trees below are accepted one level deeper. -/
theorem Session.accepts_iff {session : Session} {node : Node} {level : Nat} :
    session.Accepts node level ↔
      (∀ limit, session.maxCopyDepth = some limit → level < limit) ∧ session.AcceptsPart node ∧
        ∀ child ∈ node.children, session.Accepts child (level + 1) := by
  constructor
  · rintro ⟨shallow, enabled, plain⟩
    simp only [Node.dfs_eq_preorder] at enabled plain
    refine ⟨fun limit given => (Node.depth_lt_iff.mp (shallow limit given)).1,
      ⟨enabled node (Node.mem_preorder.mpr (.inl rfl)),
        plain node (Node.mem_preorder.mpr (.inl rfl))⟩, fun child mem => ⟨?_, ?_, ?_⟩⟩
    · exact fun limit given => (Node.depth_lt_iff.mp (shallow limit given)).2 child mem
    · intro part below
      rw [Node.dfs_eq_preorder] at below
      exact enabled part (Node.mem_preorder.mpr (.inr ⟨child, mem, below⟩))
    · intro part below
      rw [Node.dfs_eq_preorder] at below
      exact plain part (Node.mem_preorder.mpr (.inr ⟨child, mem, below⟩))
  · rintro ⟨shallow, ⟨enabled, plain⟩, below⟩
    refine ⟨fun limit given => Node.depth_lt_iff.mpr ⟨shallow limit given, fun child mem =>
      (below child mem).shallow limit given⟩, fun part mem => ?_, fun part mem => ?_⟩
    · rw [Node.dfs_eq_preorder, Node.mem_preorder] at mem
      obtain rfl | ⟨child, mem, inChild⟩ := mem
      · exact enabled
      · exact (below child mem).enabled part (child.dfs_eq_preorder ▸ inChild)
    · rw [Node.dfs_eq_preorder, Node.mem_preorder] at mem
      obtain rfl | ⟨child, mem, inChild⟩ := mem
      · exact plain
      · exact (below child mem).plain part (child.dfs_eq_preorder ▸ inChild)

/-! ## Copies -/

section Copies

variable {rule : DataType → Prop} {session : Session}

/-- No visit to a valid tree fails exactly if the session accepts the tree. -/
theorem Session.accepts_iff_visits {level : Nat} {node : Node} (valid : node.Valid rule) :
    session.Accepts node level ↔ ∀ visit ∈ node.visits level, session.failure? visit = none := by
  obtain ⟨rules, below⟩ := Node.valid_iff.mp valid
  have entered : session.failure? (.enter level node) = none ↔
      ∀ limit, session.maxCopyDepth = some limit → level < limit := by
    simp [Session.failure?, Option.filter_eq_none_iff]
  have left : session.failure? (.leave level node) = none ↔ session.AcceptsPart node := by
    rw [Session.failure?]
    cases rebuilt : node.rebuild session with
    | ok fresh => simp [((Node.rebuild_eq_ok rules).mp rebuilt).1]
    | error error =>
        simp only [reduceCtorEq, false_iff]
        intro accepts
        cases rebuilt.symm.trans ((Node.rebuild_eq_ok rules).mpr ⟨accepts, rfl⟩)
  have children : (∀ child ∈ node.children, session.Accepts child (level + 1)) ↔
      ∀ visit ∈ node.children.flatMap (Node.visits (level + 1)), session.failure? visit = none := by
    rw [List.forall_mem_flatMap]
    exact forall₂_congr fun child isChild => accepts_iff_visits (below child isChild)
  rw [Session.accepts_iff, Node.visits_eq, List.forall_mem_append, List.forall_mem_cons,
    List.forall_mem_singleton, entered, left, children, and_assoc]
  exact and_congr_right fun _ => and_comm
termination_by node.size
decreasing_by exact Node.size_lt_of_mem_children isChild

/-- The copy of a valid tree is the tree, and there is one exactly if the session accepts the
    tree. -/
theorem Session.copy_eq_ok {node copied : Node} (valid : node.Valid rule) :
    session.copy node = .ok copied ↔ session.Accepts node ∧ copied = node := by
  rw [Session.copy, Node.copy_outcome valid, Session.outcome_eq_ok, accepts_iff_visits valid]
  exact and_congr_right fun _ => eq_comm

end Copies

/-- A deep copy of a reachable tree is exact, and its acceptance is determined: it is the tree
    itself if the session accepts the tree, and otherwise there is no copy. -/
theorem copy_exact {node : Node} (reachable : Reachable (fun _ => True) node) (session : Session) :
    (session.Accepts node → session.copy node = .ok node) ∧
      (¬session.Accepts node → ∃ error, session.copy node = .error error) := by
  have valid : node.Valid fun _ => True := reachable.valid (fun _ => id) fun _ _ => trivial
  constructor
  · exact fun accepts => (Session.copy_eq_ok valid).mpr ⟨accepts, rfl⟩
  · intro rejected
    cases made : session.copy node with
    | ok copied => exact absurd ((Session.copy_eq_ok valid).mp made).1 rejected
    | error error => exact ⟨error, rfl⟩

/-- A storage format is copied where storage formats are enabled and nowhere else. -/
theorem copy_exact_storageFormat :
    (⟨.full, some 1⟩ : Session).copy (.storageFormat ⟨.regular "columnar", .empty, {}⟩)
        = .ok (.storageFormat ⟨.regular "columnar", .empty, {}⟩) ∧
      ∃ error, (⟨.empty, none⟩ : Session).copy (.storageFormat ⟨.regular "columnar", .empty, {}⟩)
        = .error error := by
  have built : Constructed (fun _ => True) ⟨.full, none⟩
      (.storageFormat ⟨.regular "columnar", .empty, {}⟩) :=
    .storageFormat (show StorageFormat.build _ (.regular "columnar") .empty = .ok _ from rfl)
  have reachable := Reachable.construct built (by simp [Node.children])
  refine ⟨(copy_exact reachable _).1 ?_, (copy_exact reachable _).2 ?_⟩
  · rw [Session.accepts_iff]
    refine ⟨by simp, ⟨?_, ?_⟩, by simp [Node.children]⟩
    · simp [Session.Enables, Node.features, FeatureSet.full, FeatureSet.contains]
    · simp [Node.options?, Options.Plain, Options.keys, Options.empty]
  · rw [Session.accepts_iff]
    simp [Session.AcceptsPart, Session.Enables, Node.features, FeatureSet.empty,
      FeatureSet.contains]

end DdlTree
