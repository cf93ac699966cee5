import DdlTree.Node
import DdlTree.Proofs.Outcome
import Mathlib.Data.List.Nodup

/-! # Well-formed nodes

The rules that the parts of a node keep, apart from the keys of its options, and the extensions that
a node uses itself. A constructor accepts its parts exactly if they keep the rules, the session
enables the extensions, and the keys of the options are bare words.
-/

namespace DdlTree

/-! ## Rules -/

/-- The parameters of a data type are positive numbers of 32 bits, and a scale is not above its
    precision. -/
def DataType.InRange : DataType → Prop
  | .decimal precision scale => 0 < precision ∧ precision < UInt32.size ∧ scale ≤ precision
  | .varchar length => 0 < length ∧ length < UInt32.size
  | .char length => 0 < length ∧ length < UInt32.size
  | _ => True

structure TableName.WellFormed (table : TableName) : Prop where
  named : table.name.isEmpty = false
  schemaNamed : ∀ schema ∈ table.schema, schema.isEmpty = false

structure ColumnList.WellFormed (list : ColumnList) : Prop where
  nonempty : list.columns ≠ []
  named : ∀ column ∈ list.columns, column.isEmpty = false
  distinct : (list.columns.map Identifier.name).Nodup

/-- The rule for an expression itself, not for its operands. -/
def Expr.WellFormed : Expr → Prop
  | .column _ name _ => name.isEmpty = false
  | .number literal _ => Numeral.isNumeral literal
  | _ => True

structure IndexColumnList.WellFormed (list : IndexColumnList) : Prop where
  nonempty : list.columns ≠ []
  distinct : list.columns.Pairwise fun a b => a.sameColumn b = false

structure ColumnDefinition.WellFormed (types : DataType → Prop) (column : ColumnDefinition) :
    Prop where
  named : column.name.isEmpty = false
  typed : types column.dataType

structure ForeignKey.WellFormed (key : ForeignKey) : Prop where
  deferrable : key.initiallyDeferred → key.deferrable
  counts : ∀ referenced ∈ key.refColumns,
    referenced.columns.length = key.columns.columns.length

structure ConstraintDrop.WellFormed (name : Option TableName) (drop : ConstraintDrop) : Prop where
  existence : drop.existence ≠ .ifNotExists
  named : name = none → drop.constraintType = .primaryKey
  grouping : drop.grouping → drop.constraintType = .foreignKey

def Constraint.WellFormed (constraint : Constraint) : Prop :=
  match constraint.body with
  | .foreignKey key => key.WellFormed
  | .drop drop => drop.WellFormed constraint.name
  | _ => True

structure IndexDefinition.WellFormed (index : IndexDefinition) : Prop where
  nonempty : index.columns.columns ≠ []
  qualified : index.joinType.isSome → ∀ column ∈ index.columns.columns, column.table.isSome

structure IndexConstraint.WellFormed (constraint : IndexConstraint) : Prop where
  named : constraint.name.isEmpty = false
  index : constraint.index.WellFormed

structure CreateIndex.WellFormed (create : CreateIndex) : Prop where
  existence : create.existence ≠ .ifExists
  index : create.index.WellFormed
  ownColumns : create.index.joinType = none →
    ∀ column ∈ create.index.columns.columns, ∀ table ∈ column.table, table.sameObject create.table

structure CreateTable.WellFormed (create : CreateTable) : Prop where
  existence : create.existence ≠ .ifExists
  nonempty : create.columns ≠ []
  distinct : (create.columns.map fun column => column.name.name).Nodup
  noDrop : ∀ constraint ∈ create.constraints, constraint.isDrop = false

def AlterAction.WellFormed : AlterAction → Prop
  | .addConstraint constraint => constraint.isDrop = false
  | .dropConstraint constraint => constraint.isDrop
  | .addColumn _ => True
  | .dropColumn column existence => existence ≠ .ifNotExists ∧ column.isEmpty = false

structure AlterTable.WellFormed (alter : AlterTable) : Prop where
  nonempty : alter.actions ≠ []
  actions : ∀ action ∈ alter.actions, action.WellFormed

def Statement.WellFormed : Statement → Prop
  | .createIndex create => create.WellFormed
  | .dropIndex drop => drop.existence ≠ .ifNotExists
  | .createTable create => create.WellFormed
  | .dropTable drop => drop.existence ≠ .ifNotExists
  | .alterTable alter => alter.WellFormed

/-- The rules for a node itself, not for what lies below it. Its data type, if it has one, keeps
    the rule `types`. -/
def Node.WellFormed (types : DataType → Prop) : Node → Prop
  | .tableName name => name.WellFormed
  | .expr e => e.WellFormed
  | .columnList columns => columns.WellFormed
  | .indexColumn column => column.column.isEmpty = false
  | .indexColumnList columns => columns.WellFormed
  | .storageFormat storage => storage.format.isEmpty = false
  | .columnDefinition column => column.WellFormed types
  | .constraint c => c.WellFormed
  | .indexConstraint index => index.WellFormed
  | .statement s => s.WellFormed

end DdlTree
