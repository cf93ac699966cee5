import DdlTree.Node
import DdlTree.Render.Style

/-! # Trees up to positions and marks

What is left of a tree when its positions are forgotten and its identifiers are marked anew. Two
trees that agree in this can differ only in where they were read, and in which of their identifiers
were delimited there.
-/

namespace DdlTree

/-- An identifier marked as delimited if the style delimits it. -/
def Style.mark (style : Style) (identifier : Identifier) : Identifier :=
  { identifier with quoted := style.needsQuotes identifier }

variable (mark : Identifier → Identifier)

def TableName.relabel (table : TableName) : TableName :=
  { schema := table.schema.map mark, name := mark table.name }

def ColumnList.relabel (list : ColumnList) : ColumnList :=
  { columns := list.columns.map mark }

def Expr.relabel : Expr → Expr
  | .column table name _ => .column (table.map (TableName.relabel mark)) (mark name) {}
  | .number literal _ => .number literal {}
  | .string value _ => .string value {}
  | .boolean value _ => .boolean value {}
  | .null _ => .null {}
  | .binary op left right _ => .binary op left.relabel right.relabel {}
  | .not operand _ => .not operand.relabel {}
  | .isNull operand negated _ => .isNull operand.relabel negated {}

def IndexColumn.relabel (column : IndexColumn) : IndexColumn :=
  { table := column.table.map (TableName.relabel mark), column := mark column.column,
    ascending := column.ascending }

def IndexColumnList.relabel (list : IndexColumnList) : IndexColumnList :=
  { columns := list.columns.map (IndexColumn.relabel mark) }

def StorageFormat.relabel (storage : StorageFormat) : StorageFormat :=
  { format := mark storage.format, options := storage.options }

def IndexDefinition.relabel (index : IndexDefinition) : IndexDefinition :=
  { index with
    columns := index.columns.relabel mark
    storageFormat := index.storageFormat.map (StorageFormat.relabel mark) }

def IndexConstraint.relabel (constraint : IndexConstraint) : IndexConstraint :=
  { name := mark constraint.name, index := constraint.index.relabel mark }

def ColumnDefinition.relabel (column : ColumnDefinition) : ColumnDefinition :=
  { name := mark column.name, dataType := column.dataType, notNull := column.notNull,
    defaultValue := column.defaultValue.map (Expr.relabel mark) }

def ForeignKey.relabel (key : ForeignKey) : ForeignKey :=
  { key with
    columns := key.columns.relabel mark
    refTable := key.refTable.relabel mark
    refColumns := key.refColumns.map (ColumnList.relabel mark) }

def ConstraintBody.relabel : ConstraintBody → ConstraintBody
  | .primaryKey columns => .primaryKey (columns.relabel mark)
  | .unique columns => .unique (columns.relabel mark)
  | .check condition => .check (condition.relabel mark)
  | .foreignKey key => .foreignKey (key.relabel mark)
  | .drop d => .drop d

def Constraint.relabel (constraint : Constraint) : Constraint :=
  { name := constraint.name.map (TableName.relabel mark), body := constraint.body.relabel mark }

def TableElement.relabel : TableElement → TableElement
  | .column c => .column (c.relabel mark)
  | .constraint c => .constraint (c.relabel mark)
  | .index i => .index (i.relabel mark)

def AlterAction.relabel : AlterAction → AlterAction
  | .addConstraint constraint => .addConstraint (constraint.relabel mark)
  | .dropConstraint constraint => .dropConstraint (constraint.relabel mark)
  | .addColumn column => .addColumn (column.relabel mark)
  | .dropColumn column existence => .dropColumn (mark column) existence

/-- The statement without positions, its identifiers marked by `mark`. -/
def Statement.relabel : Statement → Statement
  | .createIndex create => .createIndex
      { name := create.name.relabel mark, table := create.table.relabel mark,
        index := create.index.relabel mark, options := create.options,
        existence := create.existence }
  | .dropIndex drop => .dropIndex
      { name := drop.name.relabel mark, existence := drop.existence }
  | .createTable create => .createTable
      { name := create.name.relabel mark, existence := create.existence,
        elements := create.elements.map (TableElement.relabel mark),
        storageFormat := create.storageFormat.map (StorageFormat.relabel mark) }
  | .dropTable drop => .dropTable
      { name := drop.name.relabel mark, existence := drop.existence, behavior := drop.behavior }
  | .alterTable alter => .alterTable
      { name := alter.name.relabel mark, actions := alter.actions.map (AlterAction.relabel mark) }

/-- The node without positions, its identifiers marked by `mark`. -/
def Node.relabel : Node → Node
  | .tableName name => .tableName (name.relabel mark)
  | .expr e => .expr (e.relabel mark)
  | .columnList columns => .columnList (columns.relabel mark)
  | .indexColumn column => .indexColumn (column.relabel mark)
  | .indexColumnList columns => .indexColumnList (columns.relabel mark)
  | .storageFormat storage => .storageFormat (storage.relabel mark)
  | .columnDefinition column => .columnDefinition (column.relabel mark)
  | .constraint c => .constraint (c.relabel mark)
  | .indexConstraint index => .indexConstraint (index.relabel mark)
  | .statement s => .statement (s.relabel mark)

def Expr.erase : Expr → Expr :=
  Expr.relabel id

/-- To mark anew what is marked is to mark once. -/
theorem TableName.relabel_relabel (again : Identifier → Identifier) (table : TableName) :
    (table.relabel mark).relabel again = table.relabel (again ∘ mark) := by
  cases table with
  | mk schema name span => cases schema <;> rfl

theorem Expr.relabel_relabel (again : Identifier → Identifier) (expr : Expr) :
    (expr.relabel mark).relabel again = expr.relabel (again ∘ mark) := by
  induction expr with
  | column table name span =>
      cases table with
      | none => rfl
      | some table =>
          simp only [relabel, Option.map_some, TableName.relabel_relabel, Function.comp_apply]
  | binary op left right span ihLeft ihRight => simp only [relabel, ihLeft, ihRight]
  | not operand span ih => simp only [relabel, ih]
  | isNull operand negated span ih => simp only [relabel, ih]
  | _ => rfl

/-- A relabelled expression has no positions to forget. -/
theorem Expr.erase_relabel (expr : Expr) : (expr.relabel mark).erase = expr.relabel mark :=
  expr.relabel_relabel mark id

end DdlTree
