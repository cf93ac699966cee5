import DdlTree.Script

/-! # Copies

A copy builds a tree anew, each node from copies of its parts, under the rules and the session that
built the tree at first. It succeeds as a whole or fails as a whole, and a failure names the
innermost node that could not be built.

One copier can make several copies, one after another. It remembers how deep it is and how many
nodes it has built.
-/

namespace DdlTree

/-- The state of a copier. -/
structure Copier where
  session : Session
  /-- How many nodes are being built around the next one. -/
  depth : Nat := 0
  /-- How many nodes have been built. -/
  copied : Nat := 0
  deriving Repr, DecidableEq

/-- A step of a copier: it yields a copy, or the reason why there is none, and the copier after it.
    A step that fails leaves a copier too. -/
def CopyM (α : Type) : Type :=
  Copier → Except CopyError α × Copier

namespace CopyM

/-- Yield a value and do nothing. -/
def pure {α : Type} (value : α) : CopyM α :=
  fun copier => (.ok value, copier)

/-- Do two steps; the second one only if the first succeeds. -/
def bind {α β : Type} (first : CopyM α) (second : α → CopyM β) : CopyM β := fun copier =>
  match first copier with
  | (.ok value, after) => second value after
  | (.error error, after) => (.error error, after)

instance : Monad CopyM where
  pure := pure
  bind := bind

/-- Build a node of the given kind: first its parts, one level deeper, and then the node itself. -/
def node {α β : Type} (kind : NodeKind) (parts : CopyM β)
    (build : Session → β → Except BuildError α) : CopyM α := fun copier =>
  match copier.session.maxCopyDepth.filter (· ≤ copier.depth) with
  | some limit => (.error ⟨kind, .tooDeep limit⟩, copier)
  | none =>
      match parts { copier with depth := copier.depth + 1 } with
      | (.error error, after) => (.error error, { after with depth := after.depth - 1 })
      | (.ok value, after) =>
          match build copier.session value with
          | .ok built =>
              (.ok built, { after with depth := after.depth - 1, copied := after.copied + 1 })
          | .error error =>
              (.error ⟨kind, .refused error⟩, { after with depth := after.depth - 1 })

def leaf {α : Type} (kind : NodeKind) (build : Session → Except BuildError α) : CopyM α :=
  node kind (pure ()) fun session _ => build session

def optional {α : Type} (copy : α → CopyM α) : Option α → CopyM (Option α)
  | some part => do return some (← copy part)
  | none => return none

/-- Copy parts from left to right. -/
def each {α : Type} (copy : α → CopyM α) : List α → CopyM (List α)
  | [] => return []
  | part :: rest => do
      let first ← copy part
      let others ← each copy rest
      return first :: others

end CopyM

def TableName.copy (table : TableName) : CopyM TableName :=
  .leaf .tableName fun _ => do
    return { ← TableName.build table.schema table.name with span := table.span }

def ColumnList.copy (list : ColumnList) : CopyM ColumnList :=
  .leaf .columnList fun _ => do
    return { ← ColumnList.build list.columns with span := list.span }

def Expr.copy : Expr → CopyM Expr
  | .column table name span =>
      .node .columnReference (.optional TableName.copy table) fun _ table =>
        (Expr.buildColumn table name).map (·.withSpan span)
  | .number literal span => .leaf .numericConstant fun _ => .ok (.number literal span)
  | .string value span => .leaf .stringConstant fun _ => .ok (.string value span)
  | .boolean value span => .leaf .booleanConstant fun _ => .ok (.boolean value span)
  | .null span => .leaf .nullConstant fun _ => .ok (.null span)
  | .binary op left right span =>
      let parts : CopyM (Expr × Expr) := do
        let left ← left.copy
        let right ← right.copy
        return (left, right)
      .node .binaryOperator parts fun _ (left, right) => .ok (.binary op left right span)
  | .not operand span => .node .not operand.copy fun _ operand => .ok (.not operand span)
  | .isNull operand negated span =>
      .node .isNull operand.copy fun _ operand => .ok (.isNull operand negated span)

def IndexColumn.copy (column : IndexColumn) : CopyM IndexColumn :=
  .node .indexColumn (.optional TableName.copy column.table) fun _ table => do
    return { ← IndexColumn.build table column.column column.ascending with span := column.span }

def IndexColumnList.copy (list : IndexColumnList) : CopyM IndexColumnList :=
  .node .indexColumnList (.each IndexColumn.copy list.columns) fun _ columns => do
    return { ← IndexColumnList.build columns with span := list.span }

def StorageFormat.copy (storage : StorageFormat) : CopyM StorageFormat :=
  .leaf .storageFormat fun session => do
    return { ← StorageFormat.build session storage.format storage.options with
      span := storage.span }

def ColumnDefinition.copy (column : ColumnDefinition) : CopyM ColumnDefinition :=
  .node .columnDefinition (.optional Expr.copy column.defaultValue) fun _ value => do
    return { ← ColumnDefinition.build column.name column.dataType column.notNull value with
      span := column.span }

def ConstraintBody.copy : ConstraintBody → CopyM ConstraintBody
  | .primaryKey columns => do return .primaryKey (← columns.copy)
  | .unique columns => do return .unique (← columns.copy)
  | .check condition => do return .check (← condition.copy)
  | .foreignKey key => do
      let columns ← key.columns.copy
      let refTable ← key.refTable.copy
      let refColumns ← CopyM.optional ColumnList.copy key.refColumns
      return .foreignKey { key with columns, refTable, refColumns }
  | .drop d => return .drop d

def Constraint.copy (constraint : Constraint) : CopyM Constraint :=
  let parts : CopyM (Option TableName × ConstraintBody) := do
    let name ← CopyM.optional TableName.copy constraint.name
    let body ← constraint.body.copy
    return (name, body)
  .node .constraintDefinition parts fun session (name, body) => do
    return { ← Constraint.build session name body with span := constraint.span }

def IndexDefinition.copy (index : IndexDefinition) : CopyM IndexDefinition := do
  let columns ← index.columns.copy
  let storageFormat ← CopyM.optional StorageFormat.copy index.storageFormat
  return { index with columns, storageFormat }

def IndexConstraint.copy (constraint : IndexConstraint) : CopyM IndexConstraint :=
  .node .indexConstraint constraint.index.copy fun session index => do
    return { ← IndexConstraint.build session constraint.name index with span := constraint.span }

def CreateIndex.copy (create : CreateIndex) : CopyM CreateIndex :=
  let parts : CopyM CreateIndex := do
    let name ← create.name.copy
    let table ← create.table.copy
    let index ← create.index.copy
    return { create with name, table, index }
  .node .createIndex parts CreateIndex.build

def DropIndex.copy (drop : DropIndex) : CopyM DropIndex :=
  .node .dropIndex drop.name.copy fun _ name => do
    return { ← DropIndex.build name drop.existence with span := drop.span }

def TableElement.copy : TableElement → CopyM TableElement
  | .column c => do return .column (← c.copy)
  | .constraint c => do return .constraint (← c.copy)
  | .index i => do return .index (← i.copy)

def CreateTable.copy (create : CreateTable) : CopyM CreateTable :=
  let parts : CopyM (TableName × List TableElement × Option StorageFormat) := do
    let name ← create.name.copy
    let elements ← CopyM.each TableElement.copy create.elements
    let storageFormat ← CopyM.optional StorageFormat.copy create.storageFormat
    return (name, elements, storageFormat)
  .node .createTable parts fun _ (name, elements, storageFormat) => do
    return { ← CreateTable.build name create.existence elements storageFormat with
      span := create.span }

def DropTable.copy (drop : DropTable) : CopyM DropTable :=
  .node .dropTable drop.name.copy fun _ name => do
    return { ← DropTable.build name drop.existence drop.behavior with span := drop.span }

def AlterAction.copy : AlterAction → CopyM AlterAction
  | .addConstraint constraint => do return .addConstraint (← constraint.copy)
  | .dropConstraint constraint => do return .dropConstraint (← constraint.copy)
  | .addColumn column => do return .addColumn (← column.copy)
  | .dropColumn column existence => return .dropColumn column existence

def AlterTable.copy (alter : AlterTable) : CopyM AlterTable :=
  let parts : CopyM (TableName × List AlterAction) := do
    let name ← alter.name.copy
    let actions ← CopyM.each AlterAction.copy alter.actions
    return (name, actions)
  .node .alterTable parts fun _ (name, actions) => do
    return { ← AlterTable.build name actions with span := alter.span }

def Statement.copy : Statement → CopyM Statement
  | .createIndex create => do return .createIndex (← create.copy)
  | .dropIndex drop => do return .dropIndex (← drop.copy)
  | .createTable create => do return .createTable (← create.copy)
  | .dropTable drop => do return .dropTable (← drop.copy)
  | .alterTable alter => do return .alterTable (← alter.copy)

def Node.copy : Node → CopyM Node
  | .tableName name => do return .tableName (← name.copy)
  | .expr e => do return .expr (← e.copy)
  | .columnList columns => do return .columnList (← columns.copy)
  | .indexColumn column => do return .indexColumn (← column.copy)
  | .indexColumnList columns => do return .indexColumnList (← columns.copy)
  | .storageFormat storage => do return .storageFormat (← storage.copy)
  | .columnDefinition column => do return .columnDefinition (← column.copy)
  | .constraint c => do return .constraint (← c.copy)
  | .indexConstraint index => do return .indexConstraint (← index.copy)
  | .statement s => do return .statement (← s.copy)

def Script.copy (script : Script) : CopyM Script := do
  return ⟨← CopyM.each Statement.copy script.statements⟩

/-- A copy of a node under a session. -/
def Session.copy (session : Session) (node : Node) : Except CopyError Node :=
  (node.copy { session }).1

/-- A copy of a script under a session. -/
def Session.copyScript (session : Session) (script : Script) : Except CopyError Script :=
  (script.copy { session }).1

end DdlTree
