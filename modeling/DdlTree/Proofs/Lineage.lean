import DdlTree.Proofs.Invariant

/-! # Lineages

Where the nodes of a tree come from. A tree is put together from parts that were built earlier,
perhaps in other sessions; its lineage says of each of its nodes in which session that node was
built. Embedding, copying, taking apart and editing carry the lineage along.
-/

namespace DdlTree

/-! ## Paths -/

/-- Where a node lies in a tree: which child to follow at each node on the way down. -/
abbrev Path := List Nat

namespace Node

/-- The node at a path. -/
def atPath (node : Node) : Path → Option Node
  | [] => some node
  | position :: rest => node.children[position]?.bind fun child => child.atPath rest

theorem atPath_cons_eq_some {node part : Node} {position : Nat} {rest : Path} :
    node.atPath (position :: rest) = some part ↔
      ∃ child, node.children[position]? = some child ∧ child.atPath rest = some part :=
  Option.bind_eq_some_iff

theorem mem_dfs_of_atPath {node part : Node} {path : Path} (found : node.atPath path = some part) :
    part ∈ node.dfs := by
  rw [dfs_eq_preorder]
  induction path generalizing node with
  | nil =>
      obtain rfl := Option.some.inj found
      exact mem_preorder.mpr (.inl rfl)
  | cons position rest ih =>
      obtain ⟨child, isChild, found⟩ := atPath_cons_eq_some.mp found
      exact mem_preorder.mpr (.inr ⟨child, List.mem_of_getElem? isChild, ih found⟩)

/-- Every node of a walk lies at some path. -/
theorem exists_atPath {node part : Node} (mem : part ∈ node.dfs) :
    ∃ path, node.atPath path = some part := by
  rw [dfs_eq_preorder] at mem
  induction size : node.size using Nat.strongRecOn generalizing node with
  | ind n ih =>
      subst size
      obtain rfl | ⟨child, isChild, below⟩ := mem_preorder.mp mem
      · exact ⟨[], rfl⟩
      · obtain ⟨position, here⟩ := List.mem_iff_getElem?.mp isChild
        obtain ⟨rest, found⟩ := ih child.size (size_lt_of_mem_children isChild) below rfl
        exact ⟨position :: rest, atPath_cons_eq_some.mpr ⟨child, here, found⟩⟩

/-- Neither the node nor anything below it uses an extension. -/
def Bare (node : Node) : Prop :=
  ∀ part ∈ node.dfs, part.features = []

theorem bare_iff {node : Node} :
    node.Bare ↔ node.features = [] ∧ ∀ child ∈ node.children, child.Bare := by
  simp only [Bare, dfs_eq_preorder, preorder_eq node, List.forall_mem_cons, List.forall_mem_flatMap]

theorem bare_tableName (name : TableName) : (tableName name).Bare :=
  bare_iff.mpr ⟨rfl, by simp [children]⟩

theorem bare_indexColumn (column : IndexColumn) : (indexColumn column).Bare := by
  refine bare_iff.mpr ⟨rfl, fun child mem => ?_⟩
  obtain ⟨table, -, rfl⟩ := List.mem_map.mp mem
  exact bare_tableName table

theorem bare_indexColumnList (columns : IndexColumnList) : (indexColumnList columns).Bare := by
  refine bare_iff.mpr ⟨rfl, fun child mem => ?_⟩
  obtain ⟨column, -, rfl⟩ := List.mem_map.mp mem
  exact bare_indexColumn column

end Node

theorem Node.features_withSpan (span : Span) (node : Node) :
    (node.withSpan span).features = node.features := by
  cases node with
  | expr e => cases e <;> rfl
  | statement s => cases s <;> rfl
  | _ => rfl

/-! ## What a node uses was enabled -/

/-- A constructor builds no node whose own extensions its session does not enable. -/
theorem Constructed.enables {types : DataType → Prop} {session : Session} {node : Node}
    (constructed : Constructed types session node) : session.Enables node.features := by
  cases constructed with
  | storageFormat built => exact (StorageFormat.build_eq_ok.mp built).2.1
  | constraint built =>
      obtain ⟨-, enabled, rfl⟩ := Constraint.build_eq_ok.mp built
      exact enabled
  | indexConstraint built =>
      obtain ⟨-, enabled, rfl⟩ := IndexConstraint.build_eq_ok.mp built
      exact enabled
  | createIndex built => exact (CreateIndex.build_eq_ok.mp built).2.1
  | _ => exact Session.enables_nil

/-! ## Edits -/

/-- An edit that leaves bags of options alone. -/
def Edit.KeepsOptions : Edit → Prop
  | .insertOption .. => False
  | .eraseOption _ => False
  | _ => True

/-- How many children an edit takes out of a node, to put the names that it gives in their place.
    They are the first ones. -/
def Edit.replaced : Edit → Node → Nat
  | .setIndexName _, .statement (.createIndex _) => 1
  | .setName (some _), .statement (.createTable _) => 1
  | .setName _, .constraint constraint => constraint.name.toList.length
  | _, _ => 0

/-- What an edit leaves of a node: the extensions that it uses itself, and its children, apart from
    names and other children that use no extension. -/
structure Edit.Keeps (edit : Edit) (node edited : Node) : Prop where
  features : edited.features = node.features
  children : ∀ {position child}, edited.children[position]? = some child →
    child.Bare ∨ edit.names.length ≤ position ∧
      node.children[position - edit.names.length + edit.replaced node]? = some child

/-- Names come first, and the other children follow as they were. -/
private theorem Edit.keeps_of_children {edit : Edit} {node edited : Node}
    (features : edited.features = node.features)
    (children : edited.children
      = edit.names.map .tableName ++ node.children.drop (edit.replaced node)) :
    edit.Keeps node edited := by
  refine ⟨features, fun {position child} found => ?_⟩
  rw [children, List.getElem?_append, List.length_map] at found
  split at found
  · obtain ⟨name, -, rfl⟩ := List.mem_map.mp (List.mem_of_getElem? found)
    exact .inl (Node.bare_tableName name)
  · rename_i after
    rw [List.getElem?_drop, Nat.add_comm] at found
    exact .inr ⟨Nat.le_of_not_lt after, found⟩

/-- A direction changes the list of index columns, the third child of its statement. -/
private theorem Edit.keeps_of_setAscending {create changed : CreateIndex} {column : Nat}
    {ascending : Bool} (turned : create.setAscending column ascending = .ok changed) :
    (Edit.setAscending column ascending).Keeps (.statement (.createIndex create))
      (.statement (.createIndex changed)) := by
  obtain ⟨columns, -, built⟩ := bind_eq_ok.mp turned
  obtain rfl := Except.ok.inj built
  refine ⟨rfl, fun {position child} found => ?_⟩
  match position with
  | 2 =>
      obtain rfl := Option.some.inj found
      exact .inl (Node.bare_indexColumnList columns)
  | 0 | 1 | _ + 3 => exact .inr ⟨Nat.zero_le _, found⟩

private theorem Edit.keeps_of_setName {constraint changed : Constraint} {name : Option TableName}
    (renamed : constraint.setName name = .ok changed) :
    (Edit.setName name).Keeps (.constraint constraint) (.constraint changed) := by
  obtain rfl := Except.ok.inj (refuse_eq_ok.mp renamed).2
  refine keeps_of_children rfl ?_
  have replaced : (Edit.setName name).replaced (.constraint constraint)
      = (constraint.name.toList.map Node.tableName).length := by
    rw [List.length_map]
    cases name <;> rfl
  simp only [Node.children, names, replaced, List.drop_left]

theorem Edit.keeps_of_apply {edit : Edit} {node edited : Node}
    (applied : edit.apply node = .ok edited) (keepsOptions : edit.KeepsOptions) :
    edit.Keeps node edited := by
  unfold apply at applied
  split at applied
  · -- a new position
    obtain rfl := Except.ok.inj applied
    exact keeps_of_children (Node.features_withSpan _ _) (Node.children_withSpan _ _)
  · -- an index that is unique or not
    obtain rfl := Except.ok.inj applied
    exact keeps_of_children rfl rfl
  · -- a new name of an index
    obtain rfl := Except.ok.inj applied
    exact keeps_of_children rfl rfl
  · -- a direction in a statement
    obtain ⟨create, turned, rfl⟩ := checked_eq_ok.mp applied
    exact keeps_of_setAscending turned
  · -- a direction in a list
    obtain ⟨columns, -, rfl⟩ := checked_eq_ok.mp applied
    refine ⟨rfl, fun {position child} found => .inl ?_⟩
    obtain ⟨column, -, rfl⟩ := List.mem_map.mp (List.mem_of_getElem? found)
    exact Node.bare_indexColumn column
  · -- a new name of a table
    obtain rfl := Except.ok.inj applied
    exact keeps_of_children rfl rfl
  · -- a new name of a constraint
    obtain ⟨constraint, renamed, rfl⟩ := checked_eq_ok.mp applied
    exact keeps_of_setName renamed
  · -- a column that allows nulls or not
    obtain rfl := Except.ok.inj applied
    exact keeps_of_children rfl rfl
  · -- a new name of a column
    obtain ⟨columns, -, rfl⟩ := checked_eq_ok.mp applied
    exact keeps_of_children rfl rfl
  · exact absurd keepsOptions id
  · exact absurd keepsOptions id
  · simp at applied

/-! ## Lineages -/

/-- A tree, with the session in which the node at each path was built, as that session was at the
    time of the call. A node that was built without a session has none. -/
structure Lineage where
  root : Node
  born : Path → Option Session

namespace Lineage

/-- A node around parts that were there before. -/
def around (node : Node) (session : Option Session) (parts : List Lineage) : Lineage where
  root := node
  born
    | [] => session
    | position :: rest => parts[position]?.bind fun part => part.born rest

/-- A tree all of whose nodes were built in one session. -/
def within (node : Node) (session : Session) : Lineage where
  root := node
  born _ := some session

/-- The tree of a child of the root. -/
def below (tree : Lineage) (position : Nat) (child : Node) : Lineage where
  root := child
  born rest := tree.born (position :: rest)

/-- The tree after an edit of its root: the names that the edit gives come with their own lineages,
    and every other node is the one that stood in its place. -/
def edited (tree : Lineage) (edit : Edit) (root : Node) (names : List Lineage) : Lineage where
  root
  born
    | [] => tree.born []
    | position :: rest =>
        match names[position]? with
        | some name => name.born rest
        | none => tree.born ((position - names.length + edit.replaced tree.root) :: rest)

/-- Every node of the tree that uses an extension was built in one of the sessions, and that session
    enabled the extension. -/
def Enabled (sessions : Session → Prop) (tree : Lineage) : Prop :=
  ∀ path part, tree.root.atPath path = some part → ∀ feature ∈ part.features,
    ∃ session, tree.born path = some session ∧ sessions session ∧ session.features.contains feature

variable {sessions : Session → Prop} {tree : Lineage}

theorem Enabled.mono {wider : Session → Prop} (enabled : tree.Enabled sessions)
    (within : ∀ session, sessions session → wider session) : tree.Enabled wider := by
  intro path part found feature used
  obtain ⟨session, born, known, contains⟩ := enabled path part found feature used
  exact ⟨session, born, within session known, contains⟩

/-- A tree is in order if the root is and the trees below are. -/
theorem Enabled.of_root
    (root : ∀ feature ∈ tree.root.features, ∃ session, tree.born [] = some session ∧
      sessions session ∧ session.features.contains feature)
    (children : ∀ {position child}, tree.root.children[position]? = some child →
      child.Bare ∨ (tree.below position child).Enabled sessions) : tree.Enabled sessions := by
  intro path part found
  cases path with
  | nil =>
      obtain rfl := Option.some.inj found
      exact root
  | cons position rest =>
      obtain ⟨child, isChild, found⟩ := Node.atPath_cons_eq_some.mp found
      rcases children isChild with bare | enabled
      · rw [bare part (Node.mem_dfs_of_atPath found)]
        exact nofun
      · exact enabled rest part found

theorem Enabled.below (enabled : tree.Enabled sessions) {position : Nat} {child : Node}
    (isChild : tree.root.children[position]? = some child) :
    (tree.below position child).Enabled sessions :=
  fun rest part found =>
    enabled (position :: rest) part (Node.atPath_cons_eq_some.mpr ⟨child, isChild, found⟩)

theorem enabled_around {node : Node} {session? : Option Session} {parts : List Lineage}
    (root : ∀ feature ∈ node.features, ∃ session, session? = some session ∧
      sessions session ∧ session.features.contains feature)
    (children : parts.map Lineage.root = node.children)
    (enabled : ∀ part ∈ parts, part.Enabled sessions) :
    (around node session? parts).Enabled sessions := by
  refine .of_root root fun {position child} isChild => .inr ?_
  have isChild : node.children[position]? = some child := isChild
  rw [← children, List.getElem?_map] at isChild
  obtain ⟨part, here, rfl⟩ := Option.map_eq_some_iff.mp isChild
  have same : (around node session? parts).below position part.root = part := by
    simp only [below, around, here, Option.bind_some]
  rw [same]
  exact enabled part (List.mem_of_getElem? here)

theorem enabled_within {node : Node} {session : Session} (known : sessions session)
    (enabled : ∀ part ∈ node.dfs, session.Enables part.features) :
    (within node session).Enabled sessions := by
  intro path part found feature used
  exact ⟨session, rfl, known, enabled part (Node.mem_dfs_of_atPath found) feature used⟩

theorem Enabled.edited {edit : Edit} {root : Node} {names : List Lineage}
    (enabled : tree.Enabled sessions) (applied : edit.apply tree.root = .ok root)
    (keepsOptions : edit.KeepsOptions)
    (named : names.map Lineage.root = edit.names.map .tableName) :
    (tree.edited edit root names).Enabled sessions := by
  have keeps := Edit.keeps_of_apply applied keepsOptions
  have count : names.length = edit.names.length := by
    simpa only [List.length_map] using congrArg List.length named
  refine .of_root ?_ fun {position child} isChild => ?_
  · have before : tree.root.atPath [] = some tree.root := rfl
    exact keeps.features ▸ enabled [] tree.root before
  · refine (keeps.children isChild).imp_right fun ⟨after, isOld⟩ => ?_
    have same : (tree.edited edit root names).below position child
        = tree.below (position - edit.names.length + edit.replaced tree.root) child := by
      simp only [Lineage.below, Lineage.edited, count, List.getElem?_eq_none (count ▸ after)]
    rw [same]
    exact enabled.below isOld

end Lineage

end DdlTree
