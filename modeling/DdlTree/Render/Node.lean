import DdlTree.Node
import DdlTree.Render.Expr
import DdlTree.Script

/-! # Rendered nodes

Every node as SQL: keywords in upper case, single spaces, parts in the order in which the node holds
them. The text depends on nothing but the node and the style.
-/

namespace DdlTree

/-- A word with a space after it, if there is a word. -/
def leading : Option String → String
  | some word => word ++ " "
  | none => ""

/-- A word with a space before it, if there is a word. -/
def trailing : Option String → String
  | some word => " " ++ word
  | none => ""

/-- A word if a condition holds. -/
def wordIf (wanted : Bool) (word : String) : String :=
  if wanted then word else ""

/-- The join of a group index. -/
def joinClause : Option JoinType → String
  | some join => " USING " ++ join.keyword ++ " JOIN"
  | none => ""

def optionEntry (entry : String × String) : String :=
  entry.1 ++ " = " ++ stringLiteral entry.2

namespace Style

/-- An optional part, written by `write`. -/
def optional {α : Type} (write : α → Except RenderError String) :
    Option α → Except RenderError (Option String)
  | some part => (write part).map some
  | none => .ok none

def columnList (style : Style) (list : ColumnList) : Except RenderError String := do
  if list.columns.isEmpty then .error ⟨.columnList, .emptyColumnList⟩
  return commaSeparated (← list.columns.mapM (style.identifier .columnList))

def keyColumns (style : Style) (list : ColumnList) : Except RenderError String := do
  return "(" ++ (← style.columnList list) ++ ")"

/-- A column of an index. Only a descending one says so. -/
def indexColumn (style : Style) (column : IndexColumn) : Except RenderError String := do
  return (← style.column .indexColumn column.table column.column)
    ++ wordIf (!column.ascending) " DESC"

def indexColumnList (style : Style) (list : IndexColumnList) : Except RenderError String := do
  if list.columns.isEmpty then .error ⟨.indexColumnList, .noIndexColumns⟩
  return commaSeparated (← list.columns.mapM style.indexColumn)

/-- The options of a node of the given kind, in the order of their keys. -/
def options (kind : NodeKind) (bag : Options) : Except RenderError String :=
  match bag.invalidKey? with
  | some key => .error ⟨kind, .invalidOptionKey key⟩
  | none => .ok (commaSeparated (bag.entries.map optionEntry))

/-- The options in parentheses behind `opening`, or nothing if there are none. -/
def optionClause (kind : NodeKind) (opening : String) (bag : Options) :
    Except RenderError String := do
  if bag.isEmpty then return ""
  return opening ++ "(" ++ (← options kind bag) ++ ")"

def storageFormat (style : Style) (storage : StorageFormat) : Except RenderError String := do
  let format ← style.identifier .storageFormat storage.format
  let clause ← optionClause .storageFormat "" storage.options
  return "STORAGE_FORMAT " ++ format ++ clause

/-- The storage format at the end of a definition, if there is one. -/
def storageClause (style : Style) (storage : Option StorageFormat) :
    Except RenderError String := do
  return trailing (← optional style.storageFormat storage)

def columnDefinition (style : Style) (column : ColumnDefinition) : Except RenderError String := do
  let name ← style.identifier .columnDefinition column.name
  let value ← optional style.expr column.defaultValue
  return name ++ " " ++ column.dataType.text ++ trailing (value.map ("DEFAULT " ++ ·))
    ++ wordIf column.notNull " NOT NULL"

def foreignKey (style : Style) (key : ForeignKey) : Except RenderError String := do
  let columns ← style.keyColumns key.columns
  let refTable ← style.tableName key.refTable
  let refColumns ← optional style.keyColumns key.refColumns
  return wordIf key.grouping "GROUPING " ++ "FOREIGN KEY " ++ columns ++ " REFERENCES " ++ refTable
    ++ trailing refColumns ++ trailing (key.matchType.map ("MATCH " ++ ·.keyword))
    ++ " ON DELETE " ++ key.deleteRule.keyword ++ " ON UPDATE " ++ key.updateRule.keyword
    ++ wordIf key.deferrable (" DEFERRABLE" ++ wordIf key.initiallyDeferred " INITIALLY DEFERRED")

/-- A drop of a constraint. Only the primary key is dropped without a name. -/
def constraintDrop (style : Style) (name : Option TableName) (drop : ConstraintDrop) :
    Except RenderError String := do
  if name.isNone && drop.constraintType != .primaryKey then
    .error ⟨.constraintDefinition, .unnamedDrop⟩
  let name ← optional style.tableName name
  return "DROP " ++ wordIf drop.grouping "GROUPING " ++ drop.constraintType.keyword
    ++ trailing drop.existence.keyword? ++ trailing name
    ++ trailing (drop.behavior.map (·.keyword))

/-- The name in front of a definition. -/
def constraintName (style : Style) (name : Option TableName) : Except RenderError String := do
  return leading ((← optional style.tableName name).map ("CONSTRAINT " ++ ·))

def constraint (style : Style) (constraint : Constraint) : Except RenderError String := do
  match constraint.body with
  | .primaryKey columns =>
      return (← style.constraintName constraint.name) ++ "PRIMARY KEY "
        ++ (← style.keyColumns columns)
  | .unique columns =>
      return (← style.constraintName constraint.name) ++ "UNIQUE " ++ (← style.keyColumns columns)
  | .check condition =>
      return (← style.constraintName constraint.name) ++ "CHECK (" ++ (← style.expr condition)
        ++ ")"
  | .foreignKey key =>
      return (← style.constraintName constraint.name) ++ (← style.foreignKey key)
  | .drop drop => style.constraintDrop constraint.name drop

/-- The columns and the join of an index, from the opening parenthesis on. -/
def indexBody (style : Style) (index : IndexDefinition) : Except RenderError String := do
  return "(" ++ (← style.indexColumnList index.columns) ++ ")" ++ joinClause index.joinType

def indexConstraint (style : Style) (constraint : IndexConstraint) :
    Except RenderError String := do
  let name ← style.identifier .indexConstraint constraint.name
  let body ← style.indexBody constraint.index
  let storage ← style.storageClause constraint.index.storageFormat
  return wordIf constraint.index.unique "UNIQUE " ++ "INDEX " ++ name ++ " " ++ body ++ storage

def createIndex (style : Style) (create : CreateIndex) : Except RenderError String := do
  let name ← style.tableName create.name
  let table ← style.tableName create.table
  let body ← style.indexBody create.index
  let clause ← optionClause .createIndex " WITH " create.options
  let storage ← style.storageClause create.index.storageFormat
  return "CREATE " ++ wordIf create.index.unique "UNIQUE " ++ "INDEX "
    ++ leading create.existence.keyword? ++ name ++ " ON " ++ table ++ " " ++ body ++ clause
    ++ storage

def dropIndex (style : Style) (drop : DropIndex) : Except RenderError String := do
  return "DROP INDEX " ++ leading drop.existence.keyword? ++ (← style.tableName drop.name)

def tableElement (style : Style) : TableElement → Except RenderError String
  | .column column => style.columnDefinition column
  | .constraint constraint => style.constraint constraint
  | .index index => style.indexConstraint index

def createTable (style : Style) (create : CreateTable) : Except RenderError String := do
  if create.elements.isEmpty then .error ⟨.createTable, .noTableElements⟩
  let name ← style.tableName create.name
  let elements ← create.elements.mapM style.tableElement
  let storage ← style.storageClause create.storageFormat
  return "CREATE TABLE " ++ leading create.existence.keyword? ++ name ++ " ("
    ++ commaSeparated elements ++ ")" ++ storage

def dropTable (style : Style) (drop : DropTable) : Except RenderError String := do
  return "DROP TABLE " ++ leading drop.existence.keyword? ++ (← style.tableName drop.name)
    ++ trailing (drop.behavior.map (·.keyword))

def alterAction (style : Style) : AlterAction → Except RenderError String
  | .addConstraint constraint => do return "ADD " ++ (← style.constraint constraint)
  | .dropConstraint constraint => style.constraint constraint
  | .addColumn column => do return "ADD COLUMN " ++ (← style.columnDefinition column)
  | .dropColumn column existence => do
      return "DROP COLUMN " ++ leading existence.keyword? ++ (← style.identifier .alterTable column)

def alterTable (style : Style) (alter : AlterTable) : Except RenderError String := do
  if alter.actions.isEmpty then .error ⟨.alterTable, .noActions⟩
  let name ← style.tableName alter.name
  let actions ← alter.actions.mapM style.alterAction
  return "ALTER TABLE " ++ name ++ " " ++ commaSeparated actions

def statement (style : Style) : Statement → Except RenderError String
  | .createIndex create => style.createIndex create
  | .dropIndex drop => style.dropIndex drop
  | .createTable create => style.createTable create
  | .dropTable drop => style.dropTable drop
  | .alterTable alter => style.alterTable alter

def render (style : Style) : Node → Except RenderError String
  | .tableName name => style.tableName name
  | .expr e => style.expr e
  | .columnList columns => style.columnList columns
  | .indexColumn column => style.indexColumn column
  | .indexColumnList columns => style.indexColumnList columns
  | .storageFormat storage => style.storageFormat storage
  | .columnDefinition column => style.columnDefinition column
  | .constraint c => style.constraint c
  | .indexConstraint index => style.indexConstraint index
  | .statement s => style.statement s

/-- A script: a semicolon ends every statement, and the separator stands between two of them. -/
def script (style : Style) (script : Script) : Except RenderError String := do
  let texts ← script.statements.mapM style.statement
  return String.intercalate style.separator (texts.map (· ++ ";"))

end Style

/-- A node as SQL in the default style. -/
def Node.render (node : Node) : Except RenderError String :=
  Style.render {} node

/-- A script as SQL in the default style. -/
def Script.render (script : Script) : Except RenderError String :=
  Style.script {} script

end DdlTree
