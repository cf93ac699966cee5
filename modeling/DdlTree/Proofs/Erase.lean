import DdlTree.Node.Argument
import DdlTree.Node.Walk
import DdlTree.Proofs.Relabel

/-! # Trees without positions

What is left of a tree when its positions are forgotten and nothing else is. Two nodes that are
equal after this differ at most in where their parts were read.
-/

namespace DdlTree

def TableName.erase : TableName → TableName :=
  TableName.relabel id

def ColumnList.erase : ColumnList → ColumnList :=
  ColumnList.relabel id

def IndexColumn.erase : IndexColumn → IndexColumn :=
  IndexColumn.relabel id

def IndexColumnList.erase : IndexColumnList → IndexColumnList :=
  IndexColumnList.relabel id

def StorageFormat.erase : StorageFormat → StorageFormat :=
  StorageFormat.relabel id

def IndexDefinition.erase : IndexDefinition → IndexDefinition :=
  IndexDefinition.relabel id

def IndexConstraint.erase : IndexConstraint → IndexConstraint :=
  IndexConstraint.relabel id

def ColumnDefinition.erase : ColumnDefinition → ColumnDefinition :=
  ColumnDefinition.relabel id

def ForeignKey.erase : ForeignKey → ForeignKey :=
  ForeignKey.relabel id

def ConstraintBody.erase : ConstraintBody → ConstraintBody :=
  ConstraintBody.relabel id

def Constraint.erase : Constraint → Constraint :=
  Constraint.relabel id

def TableElement.erase : TableElement → TableElement :=
  TableElement.relabel id

def AlterAction.erase : AlterAction → AlterAction :=
  AlterAction.relabel id

def CreateIndex.erase (create : CreateIndex) : CreateIndex :=
  { create with
    name := create.name.erase, table := create.table.erase, index := create.index.erase,
    span := {} }

def DropIndex.erase (drop : DropIndex) : DropIndex :=
  { drop with name := drop.name.erase, span := {} }

def CreateTable.erase (create : CreateTable) : CreateTable :=
  { create with
    name := create.name.erase, elements := create.elements.map TableElement.erase,
    storageFormat := create.storageFormat.map StorageFormat.erase, span := {} }

def DropTable.erase (drop : DropTable) : DropTable :=
  { drop with name := drop.name.erase, span := {} }

def AlterTable.erase (alter : AlterTable) : AlterTable :=
  { alter with
    name := alter.name.erase, actions := alter.actions.map AlterAction.erase, span := {} }

def Statement.erase : Statement → Statement :=
  Statement.relabel id

/-- The node without positions. -/
def Node.erase : Node → Node :=
  Node.relabel id

mutual

/-- The argument with its nodes without positions. -/
def Argument.erase : Argument → Argument
  | .node n => .node n.erase
  | .nodes ns => .nodes (ns.map Node.erase)
  | .list items => .list (eraseAll items)
  | other => other

def Argument.eraseAll : List Argument → List Argument
  | [] => []
  | argument :: rest => argument.erase :: eraseAll rest

end

/-! ## Records -/

theorem TableName.erase_eq (table : TableName) : table.erase = { table with span := {} } := by
  cases table with
  | mk schema name span => cases schema <;> rfl

theorem ColumnList.erase_eq (list : ColumnList) : list.erase = { list with span := {} } := by
  rw [erase, relabel, List.map_id]

theorem IndexColumn.erase_eq (column : IndexColumn) : column.erase =
    { table := column.table.map TableName.erase, column := column.column,
      ascending := column.ascending } :=
  rfl

theorem IndexColumnList.erase_eq (list : IndexColumnList) :
    list.erase = { columns := list.columns.map IndexColumn.erase } :=
  rfl

theorem StorageFormat.erase_eq (storage : StorageFormat) :
    storage.erase = { storage with span := {} } :=
  rfl

theorem IndexDefinition.erase_eq (index : IndexDefinition) : index.erase =
    { index with
      columns := index.columns.erase
      storageFormat := index.storageFormat.map StorageFormat.erase } :=
  rfl

/-- A definition whose parts are without positions. -/
theorem IndexDefinition.erase_mk (unique : Bool) (columns : IndexColumnList)
    (joinType : Option JoinType) (storageFormat : Option StorageFormat) :
    { unique, columns := columns.erase, joinType,
      storageFormat := storageFormat.map StorageFormat.erase }
      = IndexDefinition.erase { unique, columns, joinType, storageFormat } :=
  rfl

theorem IndexConstraint.erase_eq (constraint : IndexConstraint) :
    constraint.erase = { name := constraint.name, index := constraint.index.erase } :=
  rfl

theorem ColumnDefinition.erase_eq (column : ColumnDefinition) : column.erase =
    { column with defaultValue := column.defaultValue.map Expr.erase, span := {} } :=
  rfl

theorem ForeignKey.erase_eq (key : ForeignKey) : key.erase =
    { key with
      columns := key.columns.erase
      refTable := key.refTable.erase
      refColumns := key.refColumns.map ColumnList.erase } :=
  rfl

theorem CreateIndex.erase_mk (name table : TableName) (index : IndexDefinition) (options : Options)
    (existence : ExistenceCheck) :
    { name := name.erase, table := table.erase, index := index.erase, options, existence }
      = CreateIndex.erase { name, table, index, options, existence } :=
  rfl

theorem Constraint.erase_eq (constraint : Constraint) : constraint.erase =
    { name := constraint.name.map TableName.erase, body := constraint.body.erase } :=
  rfl

/-! ## Constructors -/

namespace Expr

@[simp] theorem erase_column (table : Option TableName) (name : Identifier) (span : Span) :
    (column table name span).erase = .column (table.map TableName.erase) name {} :=
  rfl

@[simp] theorem erase_number (literal : String) (span : Span) :
    (number literal span).erase = .number literal {} :=
  rfl

@[simp] theorem erase_string (value : String) (span : Span) :
    (string value span).erase = .string value {} :=
  rfl

@[simp] theorem erase_boolean (value : Bool) (span : Span) :
    (boolean value span).erase = .boolean value {} :=
  rfl

@[simp] theorem erase_null (span : Span) : (null span).erase = .null {} :=
  rfl

@[simp] theorem erase_binary (op : BinaryOp) (left right : Expr) (span : Span) :
    (binary op left right span).erase = .binary op left.erase right.erase {} :=
  rfl

@[simp] theorem erase_not (operand : Expr) (span : Span) :
    (not operand span).erase = .not operand.erase {} :=
  rfl

@[simp] theorem erase_isNull (operand : Expr) (negated : Bool) (span : Span) :
    (isNull operand negated span).erase = .isNull operand.erase negated {} :=
  rfl

end Expr

namespace ConstraintBody

@[simp] theorem erase_primaryKey (columns : ColumnList) :
    (primaryKey columns).erase = .primaryKey columns.erase :=
  rfl

@[simp] theorem erase_unique (columns : ColumnList) :
    (unique columns).erase = .unique columns.erase :=
  rfl

@[simp] theorem erase_check (condition : Expr) : (check condition).erase = .check condition.erase :=
  rfl

@[simp] theorem erase_foreignKey (key : ForeignKey) :
    (foreignKey key).erase = .foreignKey key.erase :=
  rfl

@[simp] theorem erase_drop (d : ConstraintDrop) : (drop d).erase = .drop d :=
  rfl

end ConstraintBody

namespace TableElement

@[simp] theorem erase_column (c : ColumnDefinition) : (column c).erase = .column c.erase :=
  rfl

@[simp] theorem erase_constraint (c : Constraint) : (constraint c).erase = .constraint c.erase :=
  rfl

@[simp] theorem erase_index (i : IndexConstraint) : (index i).erase = .index i.erase :=
  rfl

end TableElement

namespace AlterAction

@[simp] theorem erase_addConstraint (c : Constraint) :
    (addConstraint c).erase = .addConstraint c.erase :=
  rfl

@[simp] theorem erase_dropConstraint (c : Constraint) :
    (dropConstraint c).erase = .dropConstraint c.erase :=
  rfl

@[simp] theorem erase_addColumn (c : ColumnDefinition) : (addColumn c).erase = .addColumn c.erase :=
  rfl

@[simp] theorem erase_dropColumn (c : Identifier) (e : ExistenceCheck) :
    (dropColumn c e).erase = .dropColumn c e :=
  rfl

end AlterAction

namespace Statement

@[simp] theorem erase_createIndex (create : CreateIndex) :
    (createIndex create).erase = .createIndex create.erase :=
  rfl

@[simp] theorem erase_dropIndex (drop : DropIndex) :
    (dropIndex drop).erase = .dropIndex drop.erase :=
  rfl

@[simp] theorem erase_createTable (create : CreateTable) :
    (createTable create).erase = .createTable create.erase :=
  rfl

@[simp] theorem erase_dropTable (drop : DropTable) :
    (dropTable drop).erase = .dropTable drop.erase :=
  rfl

@[simp] theorem erase_alterTable (alter : AlterTable) :
    (alterTable alter).erase = .alterTable alter.erase :=
  rfl

end Statement

namespace Node

@[simp] theorem erase_tableName (name : TableName) :
    (tableName name).erase = .tableName name.erase :=
  rfl

@[simp] theorem erase_expr (e : Expr) : (expr e).erase = .expr e.erase :=
  rfl

@[simp] theorem erase_columnList (columns : ColumnList) :
    (columnList columns).erase = .columnList columns.erase :=
  rfl

@[simp] theorem erase_indexColumn (column : IndexColumn) :
    (indexColumn column).erase = .indexColumn column.erase :=
  rfl

@[simp] theorem erase_indexColumnList (columns : IndexColumnList) :
    (indexColumnList columns).erase = .indexColumnList columns.erase :=
  rfl

@[simp] theorem erase_storageFormat (storage : StorageFormat) :
    (storageFormat storage).erase = .storageFormat storage.erase :=
  rfl

@[simp] theorem erase_columnDefinition (column : ColumnDefinition) :
    (columnDefinition column).erase = .columnDefinition column.erase :=
  rfl

@[simp] theorem erase_constraint (c : Constraint) : (constraint c).erase = .constraint c.erase :=
  rfl

@[simp] theorem erase_indexConstraint (index : IndexConstraint) :
    (indexConstraint index).erase = .indexConstraint index.erase :=
  rfl

@[simp] theorem erase_statement (s : Statement) : (statement s).erase = .statement s.erase :=
  rfl

end Node

end DdlTree
