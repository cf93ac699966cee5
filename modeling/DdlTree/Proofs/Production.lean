import DdlTree.Proofs.Acceptance
import DdlTree.Proofs.Reachable

/-! # Nodes of productions

A production that succeeds has called a constructor, and takes the children of its node out of its
arguments. So productions yield no node that the constructors do not yield.
-/

namespace DdlTree

/-- What a production owes: its node is built by a constructor under the session, from nodes that
    stand in the arguments. -/
structure MadeFrom (types : DataType → Prop) (session : Session) (arguments : List Argument)
    (node : Node) : Prop where
  constructed : Constructed types session node
  parts : node.children ⊆ Argument.nodesOfAll arguments

/-! ## Readers -/

namespace Node

theorem tableName?_eq_some {node : Node} {name : TableName} :
    node.tableName? = some name ↔ node = .tableName name := by
  cases node <;> simp [tableName?]

theorem columnList?_eq_some {node : Node} {columns : ColumnList} :
    node.columnList? = some columns ↔ node = .columnList columns := by
  cases node <;> simp [columnList?]

theorem indexColumn?_eq_some {node : Node} {column : IndexColumn} :
    node.indexColumn? = some column ↔ node = .indexColumn column := by
  cases node <;> simp [indexColumn?]

theorem indexColumnList?_eq_some {node : Node} {columns : IndexColumnList} :
    node.indexColumnList? = some columns ↔ node = .indexColumnList columns := by
  cases node <;> simp [indexColumnList?]

theorem storageFormat?_eq_some {node : Node} {storage : StorageFormat} :
    node.storageFormat? = some storage ↔ node = .storageFormat storage := by
  cases node <;> simp [storageFormat?]

end Node

namespace Place

variable {α : Type} {place : Place} {kind : NodeKind} {get? : Node → Option α} {wrap : α → Node}
  {argument : Argument}

/-- A node that is read from an argument stands in it. -/
theorem mem_of_node (unwraps : ∀ {node value}, get? node = some value ↔ node = wrap value)
    {value : α} (read : place.node kind get? argument = .ok value) :
    wrap value ∈ argument.nodesOf := by
  cases argument with
  | node node =>
      simp only [Place.node] at read
      split at read
      · rename_i found
        obtain rfl := Except.ok.inj read
        rw [unwraps.mp found]
        exact List.mem_singleton_self _
      · simp [refuse] at read
  | _ => simp [Place.node, refuse] at read

theorem mem_of_node? (unwraps : ∀ {node value}, get? node = some value ↔ node = wrap value)
    {value? : Option α} (read : place.node? kind get? argument = .ok value?) :
    value?.toList.map wrap ⊆ argument.nodesOf := by
  cases argument with
  | null =>
      obtain rfl := Except.ok.inj read
      exact List.nil_subset _
  | node node =>
      obtain ⟨value, found, rfl⟩ := map_eq_ok.mp read
      simpa using mem_of_node unwraps found
  | _ => simp [Place.node?, refuse] at read

theorem mem_of_value {value : Expr} (read : place.value argument = .ok value) :
    .expr value ∈ argument.nodesOf := by
  rw [Place.value.eq_def] at read
  split at read
  · obtain rfl := Except.ok.inj read
    exact List.mem_singleton_self _
  · simp [refuse] at read

theorem mem_of_value? {value? : Option Expr} (read : place.value? argument = .ok value?) :
    value?.toList.map .expr ⊆ argument.nodesOf := by
  rw [Place.value?.eq_def] at read
  split at read
  · obtain rfl := Except.ok.inj read
    exact List.nil_subset _
  · obtain rfl := Except.ok.inj read
    exact List.Subset.refl _
  · simp [refuse] at read

theorem eq_of_nodes {nodes : List Node} (read : place.nodes argument = .ok nodes) :
    argument = .nodes nodes := by
  cases argument with
  | nodes nodes => rw [Except.ok.inj read]
  | _ => simp [Place.nodes, refuse] at read

end Place

theorem Argument.nodesOf_subset {argument : Argument} {arguments : List Argument}
    (mem : argument ∈ arguments) : argument.nodesOf ⊆ Argument.nodesOfAll arguments := by
  induction mem with
  | head => exact List.subset_append_left _ _
  | tail _ _ ih => exact List.subset_append_of_subset_right _ ih

/-! ## Productions -/

namespace Production

open Node

variable {types : DataType → Prop} {session : Session} {arguments : List Argument} {node : Node}

private theorem tableName_madeFrom (built : tableName arguments = .ok node) :
    MadeFrom types session arguments node := by
  unfold tableName at built
  split at built
  · simp only [bind_eq_ok, pure_eq_ok] at built
    obtain ⟨schema, -, name, -, table, built, rfl⟩ := built
    exact ⟨.tableName built, List.nil_subset _⟩
  · simp [refuseCount] at built

private theorem columnReference_madeFrom (built : columnReference arguments = .ok node) :
    MadeFrom types session arguments node := by
  unfold columnReference at built
  split at built
  · simp only [bind_eq_ok, pure_eq_ok] at built
    obtain ⟨table, readTable, name, -, expr, built, rfl⟩ := built
    refine ⟨.column built, ?_⟩
    obtain ⟨-, rfl⟩ := Expr.buildColumn_eq_ok.mp built
    exact List.Subset.trans (Place.mem_of_node? tableName?_eq_some readTable)
      (Argument.nodesOf_subset (by simp))
  · simp [refuseCount] at built

private theorem numericConstant_madeFrom (built : numericConstant arguments = .ok node) :
    MadeFrom types session arguments node := by
  unfold numericConstant at built
  split at built
  · simp only [bind_eq_ok, pure_eq_ok] at built
    obtain ⟨text, -, expr, built, rfl⟩ := built
    refine ⟨.number built, ?_⟩
    obtain ⟨-, rfl⟩ := Expr.buildNumber_eq_ok.mp built
    exact List.nil_subset _
  · simp [refuseCount] at built

private theorem stringConstant_madeFrom (built : stringConstant arguments = .ok node) :
    MadeFrom types session arguments node := by
  unfold stringConstant at built
  split at built
  · simp only [bind_eq_ok, pure_eq_ok] at built
    obtain ⟨value, -, rfl⟩ := built
    exact ⟨.string value, List.nil_subset _⟩
  · simp [refuseCount] at built

private theorem booleanConstant_madeFrom (built : booleanConstant arguments = .ok node) :
    MadeFrom types session arguments node := by
  unfold booleanConstant at built
  split at built
  · simp only [bind_eq_ok, pure_eq_ok] at built
    obtain ⟨value, -, rfl⟩ := built
    exact ⟨.boolean value, List.nil_subset _⟩
  · simp [refuseCount] at built

private theorem nullConstant_madeFrom (built : nullConstant arguments = .ok node) :
    MadeFrom types session arguments node := by
  unfold nullConstant at built
  split at built
  · obtain rfl := Except.ok.inj built
    exact ⟨.null, List.nil_subset _⟩
  · simp [refuseCount] at built

private theorem binaryOperator_madeFrom (built : binaryOperator arguments = .ok node) :
    MadeFrom types session arguments node := by
  unfold binaryOperator at built
  split at built
  · simp only [bind_eq_ok, pure_eq_ok] at built
    obtain ⟨op, -, left, readLeft, right, readRight, rfl⟩ := built
    refine ⟨.binary op left right, ?_⟩
    simp only [children, Expr.children, List.cons_subset]
    exact ⟨Argument.nodesOf_subset (by simp) (Place.mem_of_value readLeft),
      Argument.nodesOf_subset (by simp) (Place.mem_of_value readRight), List.nil_subset _⟩
  · simp [refuseCount] at built

private theorem not_madeFrom (built : Production.not arguments = .ok node) :
    MadeFrom types session arguments node := by
  unfold Production.not at built
  split at built
  · simp only [bind_eq_ok, pure_eq_ok] at built
    obtain ⟨operand, read, rfl⟩ := built
    refine ⟨.not operand, ?_⟩
    simp only [children, Expr.children, List.cons_subset]
    exact ⟨Argument.nodesOf_subset (by simp) (Place.mem_of_value read), List.nil_subset _⟩
  · simp [refuseCount] at built

private theorem isNull_madeFrom (built : isNull arguments = .ok node) :
    MadeFrom types session arguments node := by
  unfold isNull at built
  split at built
  · simp only [bind_eq_ok, pure_eq_ok] at built
    obtain ⟨operand, read, negated, -, rfl⟩ := built
    refine ⟨.isNull operand negated, ?_⟩
    simp only [children, Expr.children, List.cons_subset]
    exact ⟨Argument.nodesOf_subset (by simp) (Place.mem_of_value read), List.nil_subset _⟩
  · simp [refuseCount] at built

private theorem columnList_madeFrom (built : columnList arguments = .ok node) :
    MadeFrom types session arguments node := by
  unfold columnList at built
  split at built
  · simp only [bind_eq_ok, pure_eq_ok] at built
    obtain ⟨nodes, -, columns, -, list, built, rfl⟩ := built
    exact ⟨.columnList built, List.nil_subset _⟩
  · simp [refuseCount] at built

private theorem indexColumn_madeFrom (built : indexColumn arguments = .ok node) :
    MadeFrom types session arguments node := by
  unfold indexColumn at built
  split at built
  · simp only [bind_eq_ok, pure_eq_ok] at built
    obtain ⟨table, readTable, name, -, ascending, -, column, built, rfl⟩ := built
    refine ⟨.indexColumn built, ?_⟩
    obtain ⟨-, rfl⟩ := IndexColumn.build_eq_ok.mp built
    exact List.Subset.trans (Place.mem_of_node? tableName?_eq_some readTable)
      (Argument.nodesOf_subset (by simp))
  · simp [refuseCount] at built

private theorem indexColumnList_madeFrom (built : indexColumnList arguments = .ok node) :
    MadeFrom types session arguments node := by
  unfold indexColumnList at built
  split at built
  · simp only [bind_eq_ok, pure_eq_ok] at built
    obtain ⟨nodes, readNodes, columns, readColumns, list, built, rfl⟩ := built
    refine ⟨.indexColumnList built, ?_⟩
    obtain ⟨-, rfl⟩ := IndexColumnList.build_eq_ok.mp built
    obtain rfl := Place.eq_of_nodes readNodes
    have same : nodes = columns.map .indexColumn := eq_map_of_mapM_eq_ok
      (fun read => (List.mem_singleton.mp (Place.mem_of_node indexColumn?_eq_some read)).symm)
      readColumns
    rw [same]
    exact Argument.nodesOf_subset (List.mem_singleton_self (.nodes (columns.map .indexColumn)))
  · simp [refuseCount] at built

private theorem storageFormat_madeFrom (built : storageFormat session arguments = .ok node) :
    MadeFrom types session arguments node := by
  unfold storageFormat at built
  split at built
  · simp only [bind_eq_ok, pure_eq_ok] at built
    obtain ⟨format, -, options, -, storage, built, rfl⟩ := built
    exact ⟨.storageFormat built, List.nil_subset _⟩
  · simp [refuseCount] at built

private theorem columnDefinition_madeFrom (given : ∀ type, DataType.Obtained type → types type)
    (built : columnDefinition arguments = .ok node) : MadeFrom types session arguments node := by
  unfold columnDefinition at built
  split at built
  · simp only [bind_eq_ok, pure_eq_ok] at built
    obtain ⟨name, -, tag, -, length, -, scale, -, type, builtType, notNull, -, value, readValue,
      column, built, rfl⟩ := built
    have allowed := given type (.ofParts builtType)
    refine ⟨.columnDefinition allowed built, ?_⟩
    obtain ⟨-, rfl⟩ := (ColumnDefinition.build_eq_ok allowed).mp built
    exact List.Subset.trans (Place.mem_of_value? readValue)
      (Argument.nodesOf_subset (by simp))
  · simp [refuseCount] at built

private theorem constraintName_subset {argument : Argument} {name : Option TableName}
    (read : constraintName argument = .ok name) : name.toList.map .tableName ⊆ argument.nodesOf :=
  Place.mem_of_node? tableName?_eq_some read

/-- A constraint, seen as the node of a production. -/
private theorem constraint_madeFrom {name : Option TableName} {body : ConstraintBody}
    {constraint : Constraint} (built : Constraint.build session name body = .ok constraint)
    (named : name.toList.map .tableName ⊆ Argument.nodesOfAll arguments)
    (parts : body.children ⊆ Argument.nodesOfAll arguments) :
    MadeFrom types session arguments (.constraint constraint) := by
  refine ⟨.constraint built, ?_⟩
  obtain ⟨-, -, rfl⟩ := Constraint.build_eq_ok.mp built
  exact List.append_subset.mpr ⟨named, parts⟩

private theorem keyConstraint_madeFrom {body : ColumnList → ConstraintBody}
    (holds : ∀ columns, (body columns).children = [.columnList columns]) {constraint : Constraint}
    (built : keyConstraint session body arguments = .ok constraint) :
    MadeFrom types session arguments (.constraint constraint) := by
  unfold keyConstraint at built
  split at built
  · simp only [bind_eq_ok] at built
    obtain ⟨name, readName, columns, readColumns, built⟩ := built
    refine constraint_madeFrom built
      (List.Subset.trans (constraintName_subset readName) (Argument.nodesOf_subset (by simp))) ?_
    rw [holds, List.cons_subset]
    exact ⟨Argument.nodesOf_subset (by simp) (Place.mem_of_node columnList?_eq_some readColumns),
      List.nil_subset _⟩
  · simp [refuseCount] at built

private theorem checkConstraint_madeFrom {constraint : Constraint}
    (built : checkConstraint session arguments = .ok constraint) :
    MadeFrom types session arguments (.constraint constraint) := by
  unfold checkConstraint at built
  split at built
  · simp only [bind_eq_ok] at built
    obtain ⟨name, readName, condition, readCondition, built⟩ := built
    refine constraint_madeFrom built
      (List.Subset.trans (constraintName_subset readName) (Argument.nodesOf_subset (by simp))) ?_
    simp only [ConstraintBody.children, List.cons_subset]
    exact ⟨Argument.nodesOf_subset (by simp) (Place.mem_of_value readCondition),
      List.nil_subset _⟩
  · simp [refuseCount] at built

private theorem foreignKeyConstraint_madeFrom {constraint : Constraint}
    (built : foreignKeyConstraint session arguments = .ok constraint) :
    MadeFrom types session arguments (.constraint constraint) := by
  unfold foreignKeyConstraint at built
  split at built
  · simp only [bind_eq_ok] at built
    obtain ⟨name, readName, refTable, readTable, columns, readColumns, refColumns, readRefColumns,
      _, -, _, -, _, -, _, -, _, -, _, -, built⟩ := built
    refine constraint_madeFrom built
      (List.Subset.trans (constraintName_subset readName) (Argument.nodesOf_subset (by simp))) ?_
    simp only [ConstraintBody.children, List.cons_subset]
    exact ⟨Argument.nodesOf_subset (by simp) (Place.mem_of_node columnList?_eq_some readColumns),
      Argument.nodesOf_subset (by simp) (Place.mem_of_node tableName?_eq_some readTable),
      List.Subset.trans (Place.mem_of_node? columnList?_eq_some readRefColumns)
        (Argument.nodesOf_subset (by simp))⟩
  · simp [refuseCount] at built

private theorem dropConstraint_madeFrom {constraint : Constraint}
    (built : dropConstraint session arguments = .ok constraint) :
    MadeFrom types session arguments (.constraint constraint) := by
  unfold dropConstraint at built
  split at built
  · simp only [bind_eq_ok] at built
    obtain ⟨name, readName, _, -, _, -, _, -, _, -, built⟩ := built
    exact constraint_madeFrom built
      (List.Subset.trans (constraintName_subset readName) (Argument.nodesOf_subset (by simp)))
      (List.nil_subset _)
  · simp [refuseCount] at built

private theorem constraintDefinition_madeFrom
    (built : constraintDefinition session arguments = .ok node) :
    MadeFrom types session arguments node := by
  unfold constraintDefinition at built
  split at built
  · simp at built
  · rename_i tag rest
    have ofRest {constraint : Constraint}
        (made : MadeFrom types session rest (.constraint constraint)) :
        MadeFrom types session (.tag tag :: rest) (.constraint constraint) :=
      ⟨made.constructed, made.parts⟩
    split at built
    · rename_i subKind _
      obtain ⟨constraint, called, rfl⟩ := map_eq_ok.mp built
      apply ofRest
      cases subKind with
      | primaryKey | unique => exact keyConstraint_madeFrom (fun _ => rfl) called
      | check => exact checkConstraint_madeFrom called
      | foreignKey => exact foreignKeyConstraint_madeFrom called
      | drop => exact dropConstraint_madeFrom called
    · simp at built
  · simp [Place.refuse] at built

private theorem indexConstraint_madeFrom (built : indexConstraint session arguments = .ok node) :
    MadeFrom types session arguments node := by
  unfold indexConstraint at built
  split at built
  · simp only [bind_eq_ok, pure_eq_ok] at built
    obtain ⟨name, -, unique, -, columns, readColumns, joinType, -, storage, readStorage, constraint,
      built, rfl⟩ := built
    refine ⟨.indexConstraint built, ?_⟩
    obtain ⟨-, -, rfl⟩ := IndexConstraint.build_eq_ok.mp built
    simp only [children, IndexDefinition.children, List.cons_subset]
    exact ⟨Argument.nodesOf_subset (by simp)
        (Place.mem_of_node indexColumnList?_eq_some readColumns),
      List.Subset.trans (Place.mem_of_node? storageFormat?_eq_some readStorage)
        (Argument.nodesOf_subset (by simp))⟩
  · simp [refuseCount] at built

private theorem createIndex_madeFrom (built : createIndex session arguments = .ok node) :
    MadeFrom types session arguments node := by
  unfold createIndex at built
  split at built
  · simp only [bind_eq_ok, pure_eq_ok] at built
    obtain ⟨unique, -, name, readName, table, readTable, columns, readColumns, joinType, -, options,
      -, existence, -, storage, readStorage, create, built, rfl⟩ := built
    refine ⟨.createIndex built, ?_⟩
    obtain ⟨-, -, -, rfl⟩ := CreateIndex.build_eq_ok.mp built
    simp only [children, Statement.children, IndexDefinition.children, List.cons_subset]
    exact ⟨Argument.nodesOf_subset (by simp) (Place.mem_of_node tableName?_eq_some readName),
      Argument.nodesOf_subset (by simp) (Place.mem_of_node tableName?_eq_some readTable),
      Argument.nodesOf_subset (by simp) (Place.mem_of_node indexColumnList?_eq_some readColumns),
      List.Subset.trans (Place.mem_of_node? storageFormat?_eq_some readStorage)
        (Argument.nodesOf_subset (by simp))⟩
  · simp [refuseCount] at built

private theorem dropIndex_madeFrom (built : dropIndex arguments = .ok node) :
    MadeFrom types session arguments node := by
  unfold dropIndex at built
  split at built
  · simp only [bind_eq_ok, pure_eq_ok] at built
    obtain ⟨name, readName, existence, -, drop, built, rfl⟩ := built
    refine ⟨.dropIndex built, ?_⟩
    obtain ⟨-, rfl⟩ := DropIndex.build_eq_ok.mp built
    simp only [children, Statement.children, List.cons_subset]
    exact ⟨Argument.nodesOf_subset (by simp) (Place.mem_of_node tableName?_eq_some readName),
      List.nil_subset _⟩
  · simp [refuseCount] at built

private theorem eq_node_of_tableElement {element : TableElement}
    (read : tableElement node = .ok element) : node = element.node := by
  cases node with
  | columnDefinition | constraint | indexConstraint => rw [← Except.ok.inj read]; rfl
  | _ => simp [tableElement] at read

private theorem createTable_madeFrom (built : createTable arguments = .ok node) :
    MadeFrom types session arguments node := by
  unfold createTable at built
  split at built
  · simp only [bind_eq_ok, pure_eq_ok] at built
    obtain ⟨name, readName, existence, -, nodes, readNodes, elements, readElements, storage,
      readStorage, create, built, rfl⟩ := built
    refine ⟨.createTable built, ?_⟩
    obtain ⟨-, rfl⟩ := CreateTable.build_eq_ok.mp built
    obtain rfl := Place.eq_of_nodes readNodes
    have same := eq_map_of_mapM_eq_ok eq_node_of_tableElement readElements
    simp only [children, Statement.children, List.cons_subset, List.append_subset, ← same]
    exact ⟨Argument.nodesOf_subset (by simp) (Place.mem_of_node tableName?_eq_some readName),
      Argument.nodesOf_subset (show Argument.nodes nodes ∈ _ by simp),
      List.Subset.trans (Place.mem_of_node? storageFormat?_eq_some readStorage)
        (Argument.nodesOf_subset (by simp))⟩
  · simp [refuseCount] at built

private theorem dropTable_madeFrom (built : dropTable arguments = .ok node) :
    MadeFrom types session arguments node := by
  unfold dropTable at built
  split at built
  · simp only [bind_eq_ok, pure_eq_ok] at built
    obtain ⟨name, readName, existence, -, behavior, -, drop, built, rfl⟩ := built
    refine ⟨.dropTable built, ?_⟩
    obtain ⟨-, rfl⟩ := DropTable.build_eq_ok.mp built
    simp only [children, Statement.children, List.cons_subset]
    exact ⟨Argument.nodesOf_subset (by simp) (Place.mem_of_node tableName?_eq_some readName),
      List.nil_subset _⟩
  · simp [refuseCount] at built

private theorem node?_of_dropColumn {table : Option TableName} {column : Identifier}
    {existence : ExistenceCheck} {action : AlterAction}
    (read : dropColumn table column existence = .ok action) : action.node? = none := by
  cases table with
  | none => rw [← Except.ok.inj read]; rfl
  | some table => simp [dropColumn] at read

private theorem node?_of_checkedDropColumn {action : AlterAction}
    (read : checkedDropColumn arguments = .ok action) : action.node? = none := by
  unfold checkedDropColumn at read
  split at read
  · simp only [bind_eq_ok] at read
    obtain ⟨existence, -, column, -, read⟩ := read
    split at read
    · exact node?_of_dropColumn read
    · simp at read
  · simp [refuseCount] at read

private theorem mem_of_alterAction {argument : Argument} {action : AlterAction}
    (read : alterAction argument = .ok action) (isNode : action.node? = some node) :
    node ∈ argument.nodesOf := by
  unfold alterAction at read
  split at read
  · rename_i constraint
    obtain rfl := Except.ok.inj read
    rw [Argument.nodesOf, List.mem_singleton]
    rw [AlterAction.ofConstraint] at isNode
    split at isNode <;> exact (Option.some.inj isNode).symm
  · obtain rfl := Except.ok.inj read
    exact List.mem_singleton.mpr (Option.some.inj isNode).symm
  · simp [node?_of_dropColumn read] at isNode
  · simp [node?_of_checkedDropColumn read] at isNode
  · simp at read
  · simp at read

theorem nodesOfAll_of_actions {argument : Argument} {items : List Argument}
    (read : actions argument = .ok items) : Argument.nodesOfAll items = argument.nodesOf := by
  unfold actions at read
  split at read
  · rename_i nodes
    obtain rfl := Except.ok.inj read
    induction nodes with
    | nil => rfl
    | cons node rest ih => exact congrArg (node :: ·) (ih rfl)
  · rw [← Except.ok.inj read, Argument.nodesOf]
  · simp [Place.refuse] at read

private theorem alterTable_madeFrom (built : alterTable arguments = .ok node) :
    MadeFrom types session arguments node := by
  unfold alterTable at built
  split at built
  · simp only [bind_eq_ok, pure_eq_ok] at built
    obtain ⟨name, readName, items, readItems, actions, readActions, alter, built, rfl⟩ := built
    refine ⟨.alterTable built, ?_⟩
    obtain ⟨-, rfl⟩ := AlterTable.build_eq_ok.mp built
    simp only [children, Statement.children, List.cons_subset]
    refine ⟨Argument.nodesOf_subset (by simp) (Place.mem_of_node tableName?_eq_some readName), ?_⟩
    intro child mem
    obtain ⟨action, mem, isNode⟩ := List.mem_filterMap.mp mem
    obtain ⟨item, memItems, read⟩ := exists_of_mem_mapM readActions mem
    have inItems := Argument.nodesOf_subset memItems (mem_of_alterAction read isNode)
    rw [nodesOfAll_of_actions readItems] at inItems
    exact Argument.nodesOf_subset (by simp) inItems
  · simp [refuseCount] at built

/-- A production that succeeds calls a constructor with nodes from its arguments. -/
theorem build_madeFrom (given : ∀ type, DataType.Obtained type → types type) {kind : NodeKind}
    (built : build session kind arguments = .ok node) : MadeFrom types session arguments node := by
  cases kind with
  | tableName => exact tableName_madeFrom built
  | columnReference => exact columnReference_madeFrom built
  | numericConstant => exact numericConstant_madeFrom built
  | stringConstant => exact stringConstant_madeFrom built
  | booleanConstant => exact booleanConstant_madeFrom built
  | nullConstant => exact nullConstant_madeFrom built
  | binaryOperator => exact binaryOperator_madeFrom built
  | not => exact not_madeFrom built
  | isNull => exact isNull_madeFrom built
  | columnList => exact columnList_madeFrom built
  | indexColumn => exact indexColumn_madeFrom built
  | indexColumnList => exact indexColumnList_madeFrom built
  | storageFormat => exact storageFormat_madeFrom built
  | columnDefinition => exact columnDefinition_madeFrom given built
  | constraintDefinition => exact constraintDefinition_madeFrom built
  | indexConstraint => exact indexConstraint_madeFrom built
  | createIndex => exact createIndex_madeFrom built
  | dropIndex => exact dropIndex_madeFrom built
  | createTable => exact createTable_madeFrom built
  | dropTable => exact dropTable_madeFrom built
  | alterTable => exact alterTable_madeFrom built

end Production

end DdlTree
