import DdlTree.Proofs.Tree
import DdlTree.Render.Style

/-! # What users put into a tree

The values of a tree are its string constants and the values of its options; the names of a tree are
its identifiers. Values can be emptied without touching anything else.
-/

namespace DdlTree

/-! ## Values -/

def Options.values (bag : Options) : List String :=
  bag.entries.map Prod.snd

/-- The string constant or the option values that a node holds itself. -/
def Node.ownLiterals : Node → List String
  | .expr (.string value _) => [value]
  | .storageFormat storage => storage.options.values
  | .statement (.createIndex create) => create.options.values
  | _ => []

/-- The string constants and option values of a tree, in the order of the walk. -/
def Node.literals (node : Node) : List String :=
  node.collect ownLiterals

theorem Node.literals_eq (node : Node) :
    node.literals = node.ownLiterals ++ node.children.flatMap literals :=
  node.collect_eq ownLiterals

/-- The bag with all its values empty. -/
def Options.blank (bag : Options) : Options :=
  ⟨bag.entries.map fun entry => (entry.1, ""), List.pairwise_map.mpr bag.sorted⟩

def Expr.blank : Expr → Expr
  | .string _ span => .string "" span
  | .binary op left right span => .binary op left.blank right.blank span
  | .not operand span => .not operand.blank span
  | .isNull operand negated span => .isNull operand.blank negated span
  | other => other

def StorageFormat.blank (storage : StorageFormat) : StorageFormat :=
  { storage with options := storage.options.blank }

def ColumnDefinition.blank (column : ColumnDefinition) : ColumnDefinition :=
  { column with defaultValue := column.defaultValue.map Expr.blank }

def ConstraintBody.blank : ConstraintBody → ConstraintBody
  | .check condition => .check condition.blank
  | other => other

def Constraint.blank (constraint : Constraint) : Constraint :=
  { constraint with body := constraint.body.blank }

def IndexDefinition.blank (index : IndexDefinition) : IndexDefinition :=
  { index with storageFormat := index.storageFormat.map StorageFormat.blank }

def IndexConstraint.blank (constraint : IndexConstraint) : IndexConstraint :=
  { constraint with index := constraint.index.blank }

def TableElement.blank : TableElement → TableElement
  | .column c => .column c.blank
  | .constraint c => .constraint c.blank
  | .index i => .index i.blank

def AlterAction.blank : AlterAction → AlterAction
  | .addConstraint constraint => .addConstraint constraint.blank
  | .dropConstraint constraint => .dropConstraint constraint.blank
  | .addColumn column => .addColumn column.blank
  | .dropColumn column existence => .dropColumn column existence

def Statement.blank : Statement → Statement
  | .createIndex create => .createIndex
      { create with index := create.index.blank, options := create.options.blank }
  | .createTable create => .createTable
      { create with
        elements := create.elements.map TableElement.blank
        storageFormat := create.storageFormat.map StorageFormat.blank }
  | .alterTable alter => .alterTable { alter with actions := alter.actions.map AlterAction.blank }
  | other => other

/-- The tree with all its string constants and option values empty. -/
def Node.blank : Node → Node
  | .expr e => .expr e.blank
  | .storageFormat storage => .storageFormat storage.blank
  | .columnDefinition column => .columnDefinition column.blank
  | .constraint c => .constraint c.blank
  | .indexConstraint index => .indexConstraint index.blank
  | .statement s => .statement s.blank
  | other => other

/-! ## Names -/

def TableName.identifiers (table : TableName) : List Identifier :=
  table.schema.toList ++ [table.name]

/-- The identifiers of a column under its table, if it names one. -/
def columnIdentifiers (table : Option TableName) (column : Identifier) : List Identifier :=
  table.toList.flatMap TableName.identifiers ++ [column]

def Expr.identifiers : Expr → List Identifier
  | .column table name _ => columnIdentifiers table name
  | .binary _ left right _ => left.identifiers ++ right.identifiers
  | .not operand _ => operand.identifiers
  | .isNull operand _ _ => operand.identifiers
  | _ => []

def IndexColumn.identifiers (column : IndexColumn) : List Identifier :=
  columnIdentifiers column.table column.column

def IndexColumnList.identifiers (list : IndexColumnList) : List Identifier :=
  list.columns.flatMap IndexColumn.identifiers

def StorageFormat.identifiers (storage : StorageFormat) : List Identifier :=
  [storage.format]

def ColumnDefinition.identifiers (column : ColumnDefinition) : List Identifier :=
  column.name :: column.defaultValue.toList.flatMap Expr.identifiers

def ForeignKey.identifiers (key : ForeignKey) : List Identifier :=
  key.columns.columns ++ key.refTable.identifiers ++ key.refColumns.toList.flatMap (·.columns)

def ConstraintBody.identifiers : ConstraintBody → List Identifier
  | .primaryKey columns => columns.columns
  | .unique columns => columns.columns
  | .check condition => condition.identifiers
  | .foreignKey key => key.identifiers
  | .drop _ => []

def Constraint.identifiers (constraint : Constraint) : List Identifier :=
  constraint.name.toList.flatMap TableName.identifiers ++ constraint.body.identifiers

/-- The identifiers of the definition of an index. -/
def IndexDefinition.identifiers (index : IndexDefinition) : List Identifier :=
  index.columns.identifiers ++ index.storageFormat.toList.flatMap StorageFormat.identifiers

def IndexConstraint.identifiers (constraint : IndexConstraint) : List Identifier :=
  constraint.name :: constraint.index.identifiers

def TableElement.identifiers : TableElement → List Identifier
  | .column c => c.identifiers
  | .constraint c => c.identifiers
  | .index i => i.identifiers

def AlterAction.identifiers : AlterAction → List Identifier
  | .addConstraint constraint => constraint.identifiers
  | .dropConstraint constraint => constraint.identifiers
  | .addColumn column => column.identifiers
  | .dropColumn column _ => [column]

def Statement.identifiers : Statement → List Identifier
  | .createIndex create =>
      create.name.identifiers ++ create.table.identifiers ++ create.index.identifiers
  | .dropIndex drop => drop.name.identifiers
  | .createTable create =>
      create.name.identifiers ++ create.elements.flatMap TableElement.identifiers
        ++ create.storageFormat.toList.flatMap StorageFormat.identifiers
  | .dropTable drop => drop.name.identifiers
  | .alterTable alter => alter.name.identifiers ++ alter.actions.flatMap AlterAction.identifiers

/-- The identifiers of a tree, a qualifier before what it qualifies, and otherwise in the order in
    which the nodes hold them. -/
def Node.identifiers : Node → List Identifier
  | .tableName table => table.identifiers
  | .expr e => e.identifiers
  | .columnList columns => columns.columns
  | .indexColumn column => column.identifiers
  | .indexColumnList columns => columns.identifiers
  | .storageFormat storage => storage.identifiers
  | .columnDefinition column => column.identifiers
  | .constraint c => c.identifiers
  | .indexConstraint index => index.identifiers
  | .statement s => s.identifiers

/-- The names among some identifiers that a style delimits. -/
def Style.delimitedNames (style : Style) (identifiers : List Identifier) : List String :=
  (identifiers.filter style.needsQuotes).map Identifier.name

theorem Style.delimitedNames_append (style : Style) (first second : List Identifier) :
    style.delimitedNames (first ++ second)
      = style.delimitedNames first ++ style.delimitedNames second := by
  rw [delimitedNames, List.filter_append, List.map_append]
  rfl

theorem Style.delimitedNames_flatMap {α : Type} (style : Style) (identifiers : α → List Identifier)
    (items : List α) :
    style.delimitedNames (items.flatMap identifiers)
      = items.flatMap fun item => style.delimitedNames (identifiers item) := by
  induction items with
  | nil => rfl
  | cons item rest ih =>
      rw [List.flatMap_cons, List.flatMap_cons, delimitedNames_append, ih]

end DdlTree
