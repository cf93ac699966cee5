import DdlTree.Constraint
import DdlTree.DataType
import DdlTree.Index

/-! # Statements

The five statements that create, drop and alter tables and indexes, and the elements of a table.
Each statement names exactly one object.
-/

namespace DdlTree

/-- A column of a table. -/
structure ColumnDefinition where
  name : Identifier
  dataType : DataType
  notNull : Bool
  defaultValue : Option Expr := none
  span : Span := {}
  deriving Repr, DecidableEq

namespace ColumnDefinition

/-- A column, unless its name is empty. -/
def build (name : Identifier) (dataType : DataType) (notNull : Bool)
    (defaultValue : Option Expr) : Except BuildError ColumnDefinition :=
  if name.isEmpty then .error (.malformed .columnDefinition .emptyColumnName)
  else .ok { name, dataType, notNull, defaultValue }

def setNotNull (column : ColumnDefinition) (notNull : Bool) : ColumnDefinition :=
  { column with notNull }

end ColumnDefinition

structure CreateIndex where
  name : TableName
  table : TableName
  index : IndexDefinition
  options : Options := .empty
  existence : ExistenceCheck := .noCondition
  span : Span := {}
  deriving Repr, DecidableEq

namespace CreateIndex

/-- Check the parts of the statement. Unless the index is a group index, a column that names a
    table names the table of the index. -/
def check (session : Session) (create : CreateIndex) : Except BuildError Unit := do
  create.existence.forCreate .createIndex
  create.index.check session .createIndex
  if !create.options.isEmpty then
    session.require .indexOptions
    create.options.checkKeys .createIndex
  if create.index.joinType.isNone then
    let qualifiers := create.index.columns.columns.filterMap (·.table)
    if let some other := qualifiers.find? fun table => !table.sameObject create.table then
      .error (.malformed .createIndex (.foreignColumn other.text create.table.text))

/-- The statement, if its parts keep the rules. -/
def build (session : Session) (create : CreateIndex) : Except BuildError CreateIndex := do
  create.check session
  return create

def setUnique (create : CreateIndex) (unique : Bool) : CreateIndex :=
  { create with index := { create.index with unique } }

def setName (create : CreateIndex) (name : TableName) : CreateIndex :=
  { create with name }

def setAscending (create : CreateIndex) (position : Nat) (ascending : Bool) :
    Except BuildError CreateIndex := do
  let columns ← create.index.columns.setAscending position ascending
  return { create with index := { create.index with columns } }

end CreateIndex

structure DropIndex where
  name : TableName
  existence : ExistenceCheck
  span : Span := {}
  deriving Repr, DecidableEq

/-- The statement, unless it asks for its index to be missing. -/
def DropIndex.build (name : TableName) (existence : ExistenceCheck) :
    Except BuildError DropIndex := do
  existence.forDrop .dropIndex
  return { name, existence }

/-- What stands between the parentheses of a table. -/
inductive TableElement where
  | column (column : ColumnDefinition)
  | constraint (constraint : Constraint)
  | index (index : IndexConstraint)
  deriving Repr, DecidableEq

def TableElement.kind : TableElement → NodeKind
  | .column _ => .columnDefinition
  | .constraint _ => .constraintDefinition
  | .index _ => .indexConstraint

/-- The columns among the elements of a table. -/
def columnsOf (elements : List TableElement) : List ColumnDefinition :=
  elements.filterMap fun
    | .column column => some column
    | _ => none

/-- The constraints among the elements of a table. -/
def constraintsOf (elements : List TableElement) : List Constraint :=
  elements.filterMap fun
    | .constraint constraint => some constraint
    | _ => none

structure CreateTable where
  name : TableName
  existence : ExistenceCheck
  elements : List TableElement
  storageFormat : Option StorageFormat := none
  span : Span := {}
  deriving Repr, DecidableEq

namespace CreateTable

/-- Check elements from left to right; `seen` holds the column names to their left. -/
def checkElements (seen : List String) : List TableElement → Except BuildError Unit
  | [] => if seen.isEmpty then .error (.malformed .createTable .noTableColumn) else .ok ()
  | .column column :: rest =>
      if seen.contains column.name.name then
        .error (.malformed .createTable (.definedTwice column.name.text))
      else checkElements (column.name.name :: seen) rest
  | .constraint constraint :: rest =>
      if constraint.isDrop then .error (.malformed .createTable .dropInTable)
      else checkElements seen rest
  | .index _ :: rest => checkElements seen rest

/-- The statement: it has a column, defines no column twice and drops no constraint. -/
def build (name : TableName) (existence : ExistenceCheck) (elements : List TableElement)
    (storageFormat : Option StorageFormat) : Except BuildError CreateTable := do
  existence.forCreate .createTable
  checkElements [] elements
  return { name, existence, elements, storageFormat }

def columns (create : CreateTable) : List ColumnDefinition :=
  columnsOf create.elements

def constraints (create : CreateTable) : List Constraint :=
  constraintsOf create.elements

def setName (create : CreateTable) (name : TableName) : CreateTable :=
  { create with name }

end CreateTable

structure DropTable where
  name : TableName
  existence : ExistenceCheck
  behavior : Option DropBehavior
  span : Span := {}
  deriving Repr, DecidableEq

/-- The statement, unless it asks for its table to be missing. -/
def DropTable.build (name : TableName) (existence : ExistenceCheck)
    (behavior : Option DropBehavior) : Except BuildError DropTable := do
  existence.forDrop .dropTable
  return { name, existence, behavior }

/-- One change to a table. -/
inductive AlterAction where
  | addConstraint (constraint : Constraint)
  | dropConstraint (constraint : Constraint)
  | addColumn (column : ColumnDefinition)
  | dropColumn (column : Identifier) (existence : ExistenceCheck)
  deriving Repr, DecidableEq

namespace AlterAction

/-- The column that is dropped, if the action drops one. -/
def dropped? : AlterAction → Option Identifier
  | .dropColumn column _ => some column
  | _ => none

/-- Add a definition, or carry out a drop. -/
def ofConstraint (constraint : Constraint) : AlterAction :=
  if constraint.isDrop then .dropConstraint constraint else .addConstraint constraint

/-- Only definitions are added, only drops are dropped, and a column that is dropped has a name and
    is not asked to be missing. -/
def check : AlterAction → Except BuildError Unit
  | .addConstraint constraint =>
      if constraint.isDrop then .error (.malformed .alterTable .addOfDrop) else .ok ()
  | .dropConstraint constraint =>
      if constraint.isDrop then .ok () else .error (.malformed .alterTable .dropOfDefinition)
  | .addColumn _ => .ok ()
  | .dropColumn column existence => do
      existence.forDrop .alterTable
      if column.isEmpty then .error (.malformed .alterTable .emptyColumnName)

/-- Check actions from left to right. -/
def checkAll : List AlterAction → Except BuildError Unit
  | [] => .ok ()
  | action :: rest => do
      action.check
      checkAll rest

end AlterAction

structure AlterTable where
  name : TableName
  actions : List AlterAction
  span : Span := {}
  deriving Repr, DecidableEq

/-- The statement, if it has an action and all its actions keep the rules. -/
def AlterTable.build (name : TableName) (actions : List AlterAction) :
    Except BuildError AlterTable := do
  if actions.isEmpty then .error (.malformed .alterTable .noActions)
  AlterAction.checkAll actions
  return { name, actions }

inductive Statement where
  | createIndex (create : CreateIndex)
  | dropIndex (drop : DropIndex)
  | createTable (create : CreateTable)
  | dropTable (drop : DropTable)
  | alterTable (alter : AlterTable)
  deriving Repr, DecidableEq

namespace Statement

def kind : Statement → NodeKind
  | .createIndex _ => .createIndex
  | .dropIndex _ => .dropIndex
  | .createTable _ => .createTable
  | .dropTable _ => .dropTable
  | .alterTable _ => .alterTable

/-- The words that a statement starts with. -/
def keywords : Statement → String
  | .createIndex _ => "CREATE INDEX"
  | .dropIndex _ => "DROP INDEX"
  | .createTable _ => "CREATE TABLE"
  | .dropTable _ => "DROP TABLE"
  | .alterTable _ => "ALTER TABLE"

/-- The object that a statement creates, drops or alters. -/
def object : Statement → TableName
  | .createIndex create => create.name
  | .dropIndex drop => drop.name
  | .createTable create => create.name
  | .dropTable drop => drop.name
  | .alterTable alter => alter.name

def span : Statement → Span
  | .createIndex create => create.span
  | .dropIndex drop => drop.span
  | .createTable create => create.span
  | .dropTable drop => drop.span
  | .alterTable alter => alter.span

/-- The statement at another position; its parts stay where they are. -/
def withSpan (span : Span) : Statement → Statement
  | .createIndex create => .createIndex { create with span }
  | .dropIndex drop => .dropIndex { drop with span }
  | .createTable create => .createTable { create with span }
  | .dropTable drop => .dropTable { drop with span }
  | .alterTable alter => .alterTable { alter with span }

end Statement

end DdlTree
