import DdlTree.Proofs.Arguments

/-! # Arguments are the parts of a node

The arguments of a node hold its own scalars and its children, and nearly every node is built from
these alone. Lists of key columns and drops of columns are not: such a node holds names, and its
production takes references to columns, which are no children of it.
-/

namespace DdlTree

/-! ## Scalars -/

@[simp] def Expr.scalars : Expr → List Argument
  | .column _ name _ => [.ofIdentifier name]
  | .number literal _ => [.text literal]
  | .string value _ => [.text value]
  | .boolean value _ => [.bool value]
  | .binary op _ _ _ => [.ofWord BinaryOp.vocabulary op]
  | .isNull _ negated _ => [.bool negated]
  | .null _ | .not .. => []

@[simp] def DataType.scalars (type : DataType) : List Argument :=
  .tag type.keyword :: (type.length?.toList ++ type.scale?.toList).map .ofNat

@[simp] def ColumnDefinition.scalars (column : ColumnDefinition) : List Argument :=
  .ofIdentifier column.name :: column.dataType.scalars ++ [.bool column.notNull]

@[simp] def ConstraintBody.scalars : ConstraintBody → List Argument
  | .foreignKey key =>
      [.int key.deleteRule.code, .int key.updateRule.code]
        ++ key.matchType.toList.map (.ofWord MatchType.vocabulary)
        ++ [.bool key.grouping, .bool key.deferrable, .bool key.initiallyDeferred]
  | .drop d =>
      [.ofWord ConstraintType.vocabulary d.constraintType]
        ++ d.behavior.toList.map (.ofWord DropBehavior.vocabulary)
        ++ [.bool d.grouping, .ofWord ExistenceCheck.vocabulary d.existence]
  | .primaryKey _ | .unique _ | .check _ => []

@[simp] def IndexDefinition.scalars (index : IndexDefinition) : List Argument :=
  .bool index.unique :: index.joinType.toList.map (.ofWord JoinType.vocabulary)

@[simp] def AlterAction.scalars : AlterAction → List Argument
  | .dropColumn column existence =>
      [.ofIdentifier column, .ofWord ExistenceCheck.vocabulary existence]
  | _ => []

@[simp] def Statement.scalars : Statement → List Argument
  | .createIndex create =>
      create.index.scalars
        ++ [.options create.options, .ofWord ExistenceCheck.vocabulary create.existence]
  | .dropIndex drop => [.ofWord ExistenceCheck.vocabulary drop.existence]
  | .createTable create => [.ofWord ExistenceCheck.vocabulary create.existence]
  | .dropTable drop =>
      .ofWord ExistenceCheck.vocabulary drop.existence
        :: drop.behavior.toList.map (.ofWord DropBehavior.vocabulary)
  | .alterTable alter => alter.actions.flatMap AlterAction.scalars

/-- What a node holds itself and is no node: names, texts, numbers, words, flags and options. -/
@[simp] def Node.scalars : Node → List Argument
  | .tableName table => (table.schema.toList ++ [table.name]).map .ofIdentifier
  | .expr e => e.scalars
  | .columnList list => list.columns.map .ofIdentifier
  | .indexColumn column => [.ofIdentifier column.column, .bool column.ascending]
  | .indexColumnList _ => []
  | .storageFormat storage => [.ofIdentifier storage.format, .options storage.options]
  | .columnDefinition column => column.scalars
  | .constraint c => .tag c.body.subKind.tag :: c.body.scalars
  | .indexConstraint index => .ofIdentifier index.name :: index.index.scalars
  | .statement s => s.scalars

/-! ## Scalars in arguments -/

mutual
/-- The scalars that an argument brings along; null is none. -/
@[simp] def Argument.scalarsOf : Argument → List Argument
  | .null | .node _ | .nodes _ => []
  | .list items => Argument.scalarsOfAll items
  | scalar => [scalar]

/-- The scalars that a list of arguments brings along. -/
@[simp] def Argument.scalarsOfAll : List Argument → List Argument
  | [] => []
  | argument :: rest => argument.scalarsOf ++ Argument.scalarsOfAll rest
end

namespace Argument

@[simp] theorem scalarsOf_ofIdentifier (identifier : Identifier) :
    (ofIdentifier identifier).scalarsOf = [ofIdentifier identifier] := by
  rw [ofIdentifier]
  split <;> rfl

@[simp] theorem scalarsOf_ofWord {α : Type} [DecidableEq α] (vocabulary : Vocabulary α)
    (meaning : α) : (ofWord vocabulary meaning).scalarsOf = [ofWord vocabulary meaning] := by
  simp [ofWord, scalarsOf]

@[simp] theorem scalarsOf_ofNat (n : Nat) : (ofNat n).scalarsOf = [ofNat n] := by
  simp [ofNat, scalarsOf]

/-- An optional scalar brings itself along. -/
@[simp] theorem scalarsOf_scalar? {α : Type} {write : α → Argument}
    (scalar : ∀ part, (write part).scalarsOf = [write part]) (part? : Option α) :
    (ofOption write part?).scalarsOf = part?.toList.map write := by
  cases part? with
  | none => rfl
  | some part => exact scalar part

@[simp] theorem scalarsOf_node? {α : Type} (wrap : α → Node) (part? : Option α) :
    (ofOption (.node ∘ wrap) part?).scalarsOf = [] := by
  cases part? <;> rfl

theorem scalarsOfAll_eq (arguments : List Argument) :
    scalarsOfAll arguments = arguments.flatMap scalarsOf := by
  induction arguments with
  | nil => rfl
  | cons argument rest ih => rw [scalarsOfAll, List.flatMap_cons, ih]

end Argument

theorem AlterAction.scalarsOf_argument (action : AlterAction) :
    action.argument.scalarsOf ⊆ action.scalars := by
  cases action <;> simp [argument]

/-- The scalars among the arguments of a node are its own. -/
theorem Node.scalarsOfAll_arguments (node : Node) :
    Argument.scalarsOfAll node.arguments ⊆ node.scalars := by
  intro scalar mem
  cases node with
  | expr e => cases e <;> simp_all [arguments, Expr.arguments]
  | columnList | indexColumnList => simp [arguments] at mem
  | tableName | indexColumn | storageFormat => simpa [arguments] using mem
  | columnDefinition column => simpa [arguments, ColumnDefinition.arguments] using mem
  | constraint c =>
      obtain ⟨name, body, span⟩ := c
      cases body <;>
        simpa [arguments, Constraint.arguments, ConstraintBody.arguments] using mem
  | indexConstraint index => simpa [arguments, IndexConstraint.arguments] using mem
  | statement s =>
      cases s with
      | alterTable alter =>
          simp only [arguments, Statement.arguments, Argument.scalarsOfAll_eq, List.flatMap_cons,
            List.flatMap_nil, List.append_nil, Argument.scalarsOf, List.nil_append,
            List.flatMap_map] at mem
          obtain ⟨action, memActions, memAction⟩ := List.mem_flatMap.mp mem
          exact List.mem_flatMap.mpr ⟨action, memActions, action.scalarsOf_argument memAction⟩
      | _ => simpa [arguments, Statement.arguments] using mem

/-! ## Nodes in arguments -/

/-- The columns that a node names without holding a node for them. -/
def Node.namedColumns : Node → List Identifier
  | .columnList list => list.columns
  | .statement (.alterTable alter) => alter.actions.filterMap AlterAction.dropped?
  | _ => []

namespace Argument

@[simp] theorem nodesOf_ofIdentifier (identifier : Identifier) :
    (ofIdentifier identifier).nodesOf = [] := by
  rw [ofIdentifier]
  split <;> rfl

@[simp] theorem nodesOf_ofWord {α : Type} [DecidableEq α] (vocabulary : Vocabulary α)
    (meaning : α) : (ofWord vocabulary meaning).nodesOf = [] := by
  simp [ofWord, nodesOf]

@[simp] theorem nodesOf_ofNat (n : Nat) : (ofNat n).nodesOf = [] := by
  simp [ofNat, nodesOf]

theorem nodesOf_ofOption {α : Type} {write : α → Argument} {nodesIn : α → List Node}
    (each : ∀ part, (write part).nodesOf = nodesIn part) (part? : Option α) :
    (ofOption write part?).nodesOf = part?.toList.flatMap nodesIn := by
  cases part? with
  | none => simp [ofOption, nodesOf]
  | some part => rw [ofOption, each, Option.toList_some, List.flatMap_singleton]

/-- An optional scalar brings no node along. -/
@[simp] theorem nodesOf_scalar? {α : Type} {write : α → Argument}
    (scalar : ∀ part, (write part).nodesOf = []) (part? : Option α) :
    (ofOption write part?).nodesOf = [] := by
  rw [nodesOf_ofOption scalar, List.flatMap_eq_nil_iff.mpr fun _ _ => rfl]

@[simp] theorem nodesOf_node? {α : Type} (wrap : α → Node) (part? : Option α) :
    (ofOption (.node ∘ wrap) part?).nodesOf = part?.toList.map wrap := by
  have one (part : α) : ((.node ∘ wrap) part : Argument).nodesOf = [wrap part] := by
    rw [Function.comp_apply, nodesOf]
  rw [nodesOf_ofOption one, List.map_eq_flatMap]

end Argument

theorem Argument.nodesOfAll_eq (arguments : List Argument) :
    nodesOfAll arguments = arguments.flatMap nodesOf := by
  induction arguments with
  | nil => rw [nodesOfAll, List.flatMap_nil]
  | cons argument rest ih => rw [nodesOfAll, List.flatMap_cons, ih]

/-- An action is asked for by its node, or by a reference to the column that it drops. -/
theorem AlterAction.mem_of_argument {action : AlterAction} {part : Node}
    (mem : part ∈ action.argument.nodesOf) :
    action.node? = some part ∨ ∃ column, action.dropped? = some column ∧
      column.reference = part := by
  cases action with
  | dropColumn column existence =>
      refine .inr ⟨column, rfl, ?_⟩
      simpa [argument, Argument.nodesOf, Argument.nodesOfAll, eq_comm] using mem
  | _ => exact .inl (congrArg some (List.mem_singleton.mp mem).symm)

/-- The nodes among the arguments of a node are its children and references to the columns that it
    names. -/
theorem Node.nodesOfAll_arguments (node : Node) :
    Argument.nodesOfAll node.arguments
      ⊆ node.children ++ node.namedColumns.map Identifier.reference := by
  cases node with
  | tableName table => simp [arguments, Argument.nodesOfAll]
  | expr e =>
      cases e <;> simp [arguments, Expr.arguments, Argument.nodesOfAll, Argument.nodesOf, children,
        Expr.children]
  | columnList | indexColumn | indexColumnList =>
      simp [arguments, Argument.nodesOfAll, Argument.nodesOf, children, namedColumns]
  | storageFormat storage => simp [arguments, Argument.nodesOfAll, Argument.nodesOf]
  | columnDefinition column =>
      simp [arguments, ColumnDefinition.arguments, Argument.nodesOfAll, Argument.nodesOf, children]
  | constraint c =>
      obtain ⟨name, body, span⟩ := c
      cases body with
      | foreignKey key =>
          -- the table referred to stands before the columns here, and behind them as a child
          have refColumns : key.refColumns.toList.map columnList
              ⊆ columnList key.columns :: tableName key.refTable
                :: key.refColumns.toList.map columnList :=
            List.subset_cons_of_subset _ (List.subset_cons_of_subset _ (List.Subset.refl _))
          simpa [arguments, Constraint.arguments, ConstraintBody.arguments, children,
            ConstraintBody.children, Argument.nodesOfAll, Argument.nodesOf, namedColumns]
            using List.subset_append_of_subset_right _ refColumns
      | _ => simp [arguments, Constraint.arguments, ConstraintBody.arguments, children,
          ConstraintBody.children, Argument.nodesOfAll, Argument.nodesOf]
  | indexConstraint index =>
      simp [arguments, IndexConstraint.arguments, Argument.nodesOfAll, Argument.nodesOf, children,
        IndexDefinition.children]
  | statement s =>
      cases s with
      | alterTable alter =>
          intro part mem
          simp only [arguments, Statement.arguments, Argument.nodesOfAll_eq, List.flatMap_cons,
            List.flatMap_nil, List.append_nil, Argument.nodesOf, List.mem_append, List.mem_flatMap,
            List.mem_singleton, List.flatMap_map] at mem
          simp only [children, Statement.children, namedColumns, List.mem_append, List.mem_cons,
            List.mem_map, List.mem_filterMap]
          obtain rfl | ⟨action, memActions, memAction⟩ := mem
          · exact .inl (.inl rfl)
          · rcases AlterAction.mem_of_argument memAction with isNode | ⟨column, drops, rfl⟩
            · exact .inl (.inr ⟨action, memActions, isNode⟩)
            · exact .inr ⟨column, ⟨action, memActions, drops⟩, rfl⟩
      | _ => simp [arguments, Statement.arguments, children, Statement.children,
          IndexDefinition.children, Argument.nodesOfAll, Argument.nodesOf, namedColumns]

/-! ## Named columns are referred to -/

namespace Node

variable {node : Node} {column : Identifier}

theorem kind_of_named (named : column ∈ node.namedColumns) :
    node.kind = .columnList ∨ node.kind = .alterTable := by
  cases node with
  | columnList => exact .inl rfl
  | statement s => cases s with
      | alterTable => exact .inr rfl
      | _ => cases named
  | _ => cases named

/-- A node that names columns has no expression as a child. -/
theorem expr_notMem_children (named : column ∈ node.namedColumns) (e : Expr) :
    .expr e ∉ node.children := by
  cases node with
  | columnList => exact List.not_mem_nil
  | statement s => cases s with
      | alterTable alter =>
          simp only [children, Statement.children, List.mem_cons, reduceCtorEq, List.mem_filterMap,
            false_or]
          rintro ⟨action, -, isExpr⟩
          cases action <;> cases isExpr
      | _ => cases named
  | _ => cases named

theorem namedColumns_withSpan (span : Span) (node : Node) :
    (node.withSpan span).namedColumns = node.namedColumns := by
  cases node with
  | statement s => cases s <;> rfl
  | _ => rfl

end Node

namespace Production

variable {argument : Argument} {arguments : List Argument} {column : Identifier} {node : Node}

theorem eq_of_plainColumn {part : Node} (read : plainColumn part = .ok column) :
    ∃ span, part = .expr (.column none column span) := by
  unfold plainColumn at read
  split at read
  · obtain rfl := Except.ok.inj read
    exact ⟨_, rfl⟩
  · cases read
  · cases read

theorem reference_of_columnList (built : columnList arguments = .ok node)
    (named : column ∈ node.namedColumns) :
    ∃ span, .expr (.column none column span) ∈ Argument.nodesOfAll arguments := by
  unfold columnList at built
  split at built
  · simp only [bind_eq_ok, pure_eq_ok] at built
    obtain ⟨nodes, readNodes, columns, readColumns, list, built, rfl⟩ := built
    obtain ⟨-, rfl⟩ := ColumnList.build_eq_ok.mp built
    obtain rfl := Place.eq_of_nodes readNodes
    obtain ⟨part, mem, read⟩ := exists_of_mem_mapM readColumns named
    obtain ⟨span, rfl⟩ := eq_of_plainColumn read
    exact ⟨span, Argument.nodesOf_subset (List.mem_singleton_self _) mem⟩
  · simp [refuseCount] at built

theorem eq_of_dropColumn {table : Option TableName} {name : Identifier}
    {existence : ExistenceCheck} {action : AlterAction}
    (read : dropColumn table name existence = .ok action)
    (drops : action.dropped? = some column) : table = none ∧ name = column := by
  cases table with
  | none =>
      obtain rfl := Except.ok.inj read
      exact ⟨rfl, Option.some.inj drops⟩
  | some table => cases read

theorem reference_of_alterAction {action : AlterAction} (read : alterAction argument = .ok action)
    (drops : action.dropped? = some column) :
    ∃ span, .expr (.column none column span) ∈ argument.nodesOf := by
  unfold alterAction at read
  split at read
  · obtain rfl := Except.ok.inj read
    rw [AlterAction.ofConstraint] at drops
    split at drops <;> cases drops
  · obtain rfl := Except.ok.inj read
    cases drops
  · obtain ⟨rfl, rfl⟩ := eq_of_dropColumn read drops
    exact ⟨_, List.mem_singleton_self _⟩
  · unfold checkedDropColumn at read
    split at read
    · simp only [bind_eq_ok] at read
      obtain ⟨existence, -, value, readValue, read⟩ := read
      split at read
      · obtain ⟨rfl, rfl⟩ := eq_of_dropColumn read drops
        exact ⟨_, Argument.nodesOf_subset (by simp) (Place.mem_of_value readValue)⟩
      · cases read
    · cases read
  · cases read
  · cases read

theorem reference_of_alterTable (built : alterTable arguments = .ok node)
    (named : column ∈ node.namedColumns) :
    ∃ span, .expr (.column none column span) ∈ Argument.nodesOfAll arguments := by
  unfold alterTable at built
  split at built
  · simp only [bind_eq_ok, pure_eq_ok] at built
    obtain ⟨name, -, items, readItems, actions, readActions, alter, built, rfl⟩ := built
    obtain ⟨-, rfl⟩ := AlterTable.build_eq_ok.mp built
    obtain ⟨action, memAction, drops⟩ := List.mem_filterMap.mp named
    obtain ⟨item, memItem, read⟩ := exists_of_mem_mapM readActions memAction
    obtain ⟨span, inItem⟩ := reference_of_alterAction read drops
    have inItems := Argument.nodesOf_subset memItem inItem
    rw [nodesOfAll_of_actions readItems] at inItems
    exact ⟨span, Argument.nodesOf_subset (by simp) inItems⟩
  · simp [refuseCount] at built

end Production

end DdlTree
