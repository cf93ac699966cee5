import DdlTree.Json.Basic
import DdlTree.Script

/-! # Dumps

Nodes as JSON. A dump keeps everything but positions: two nodes have one dump exactly if they are
equal wherever they stand.
-/

namespace DdlTree

/-- An optional part; null stands for a missing one. -/
def Json.optional {α : Type} (dump : α → Json) : Option α → Json
  | some part => dump part
  | none => .null

/-- An object with one member. -/
def Json.tagged (tag : String) (value : Json) : Json :=
  .object [(tag, value)]

def Identifier.dump (identifier : Identifier) : Json :=
  .object [("name", .string identifier.name), ("quoted", .bool identifier.quoted)]

def TableName.dump (table : TableName) : Json :=
  .object [("schema", .optional Identifier.dump table.schema), ("name", table.name.dump)]

def ColumnList.dump (list : ColumnList) : Json :=
  .object [("columns", .array (list.columns.map Identifier.dump))]

def Expr.dump : Expr → Json
  | .column table name _ =>
      .tagged "column" (.object [("table", .optional TableName.dump table), ("column", name.dump)])
  | .number literal _ => .tagged "number" (.object [("value", .string literal)])
  | .string value _ => .tagged "string" (.object [("value", .string value)])
  | .boolean value _ => .tagged "boolean" (.object [("value", .bool value)])
  | .null _ => .tagged "null" (.object [])
  | .binary op left right _ =>
      .tagged "binary"
        (.object [("op", .string op.name), ("left", left.dump), ("right", right.dump)])
  | .not operand _ => .tagged "not" (.object [("operand", operand.dump)])
  | .isNull operand negated _ =>
      .tagged "is_null" (.object [("operand", operand.dump), ("negated", .bool negated)])

def IndexColumn.dump (column : IndexColumn) : Json :=
  .object
    [("table", .optional TableName.dump column.table), ("column", column.column.dump),
     ("ascending", .bool column.ascending)]

def IndexColumnList.dump (list : IndexColumnList) : Json :=
  .object [("columns", .array (list.columns.map IndexColumn.dump))]

def Options.dump (bag : Options) : Json :=
  .object (bag.entries.map fun entry => (entry.1, .string entry.2))

def StorageFormat.dump (storage : StorageFormat) : Json :=
  .object [("format", storage.format.dump), ("options", storage.options.dump)]

def DataType.dump : DataType → Json
  | .decimal precision scale =>
      .tagged "Decimal" (.object [("precision", .number precision), ("scale", .number scale)])
  | .varchar length => .tagged "Varchar" (.number length)
  | .char length => .tagged "Char" (.number length)
  | type => .string type.name

def ColumnDefinition.dump (column : ColumnDefinition) : Json :=
  .object
    [("name", column.name.dump), ("data_type", column.dataType.dump),
     ("not_null", .bool column.notNull), ("default", .optional Expr.dump column.defaultValue)]

def ExistenceCheck.dump (existence : ExistenceCheck) : Json :=
  .string existence.name

def DropBehavior.dump (behavior : DropBehavior) : Json :=
  .string behavior.name

def JoinType.dump (join : JoinType) : Json :=
  .string join.name

def MatchType.dump (type : MatchType) : Json :=
  .string type.name

def ForeignKey.dump (key : ForeignKey) : Json :=
  .object
    [("columns", key.columns.dump), ("ref_table", key.refTable.dump),
     ("ref_columns", .optional ColumnList.dump key.refColumns),
     ("delete_rule", .string key.deleteRule.name), ("update_rule", .string key.updateRule.name),
     ("match_type", .optional MatchType.dump key.matchType), ("grouping", .bool key.grouping),
     ("deferrable", .bool key.deferrable), ("initially_deferred", .bool key.initiallyDeferred)]

def ConstraintDrop.dump (drop : ConstraintDrop) : Json :=
  .object
    [("constraint_type", .string drop.constraintType.name),
     ("behavior", .optional DropBehavior.dump drop.behavior),
     ("existence_check", drop.existence.dump), ("grouping", .bool drop.grouping)]

def ConstraintBody.dump : ConstraintBody → Json
  | .primaryKey columns => .tagged "primary_key" (.object [("columns", columns.dump)])
  | .unique columns => .tagged "unique" (.object [("columns", columns.dump)])
  | .check condition => .tagged "check" (.object [("condition", condition.dump)])
  | .foreignKey key => .tagged "foreign_key" key.dump
  | .drop d => .tagged "drop" d.dump

def Constraint.dump (constraint : Constraint) : Json :=
  .object
    [("name", .optional TableName.dump constraint.name), ("body", constraint.body.dump)]

def IndexConstraint.dump (constraint : IndexConstraint) : Json :=
  .object
    [("name", constraint.name.dump), ("unique", .bool constraint.index.unique),
     ("columns", constraint.index.columns.dump),
     ("join_type", .optional JoinType.dump constraint.index.joinType),
     ("storage_format", .optional StorageFormat.dump constraint.index.storageFormat)]

def CreateIndex.dump (create : CreateIndex) : Json :=
  .object
    [("unique", .bool create.index.unique), ("index_name", create.name.dump),
     ("table_name", create.table.dump), ("columns", create.index.columns.dump),
     ("join_type", .optional JoinType.dump create.index.joinType),
     ("options", create.options.dump), ("existence_check", create.existence.dump),
     ("storage_format", .optional StorageFormat.dump create.index.storageFormat)]

def DropIndex.dump (drop : DropIndex) : Json :=
  .object [("index_name", drop.name.dump), ("existence_check", drop.existence.dump)]

def TableElement.dump : TableElement → Json
  | .column c => .tagged "column" c.dump
  | .constraint c => .tagged "constraint" c.dump
  | .index i => .tagged "index" i.dump

def CreateTable.dump (create : CreateTable) : Json :=
  .object
    [("name", create.name.dump), ("existence_check", create.existence.dump),
     ("elements", .array (create.elements.map TableElement.dump)),
     ("storage_format", .optional StorageFormat.dump create.storageFormat)]

def DropTable.dump (drop : DropTable) : Json :=
  .object
    [("name", drop.name.dump), ("existence_check", drop.existence.dump),
     ("behavior", .optional DropBehavior.dump drop.behavior)]

def AlterAction.dump : AlterAction → Json
  | .addConstraint constraint => .tagged "add_constraint" constraint.dump
  | .dropConstraint constraint => .tagged "drop_constraint" constraint.dump
  | .addColumn column => .tagged "add_column" column.dump
  | .dropColumn column existence =>
      .tagged "drop_column"
        (.object [("column", column.dump), ("existence_check", existence.dump)])

def AlterTable.dump (alter : AlterTable) : Json :=
  .object [("name", alter.name.dump), ("actions", .array (alter.actions.map AlterAction.dump))]

def Statement.dump : Statement → Json
  | .createIndex create => .tagged "create_index" create.dump
  | .dropIndex drop => .tagged "drop_index" drop.dump
  | .createTable create => .tagged "create_table" create.dump
  | .dropTable drop => .tagged "drop_table" drop.dump
  | .alterTable alter => .tagged "alter_table" alter.dump

def Node.dump : Node → Json
  | .tableName name => .tagged "table_name" name.dump
  | .expr e => .tagged "value" e.dump
  | .columnList columns => .tagged "column_list" columns.dump
  | .indexColumn column => .tagged "index_column" column.dump
  | .indexColumnList columns => .tagged "index_column_list" columns.dump
  | .storageFormat storage => .tagged "storage_format" storage.dump
  | .columnDefinition column => .tagged "column_definition" column.dump
  | .constraint c => .tagged "constraint" c.dump
  | .indexConstraint index => .tagged "index_constraint" index.dump
  | .statement s => s.dump

def Script.dump (script : Script) : Json :=
  .array (script.statements.map Statement.dump)

def Node.toJson (node : Node) : String :=
  node.dump.render

def Script.toJson (script : Script) : String :=
  script.dump.render

end DdlTree
