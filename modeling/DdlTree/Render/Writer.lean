import DdlTree.Render.Node

/-! # Writers

A writer renders into a buffer. The parts of a node append their texts one after another, and the
writer counts the expressions that it is in. One writer can render many nodes and scripts, one after
another: each of them starts with an empty buffer and a count of zero.
-/

namespace DdlTree

/-- The state of a renderer. -/
structure Writer where
  style : Style
  /-- What has been written. -/
  output : String := ""
  /-- How many expressions are being written around the next one. -/
  depth : Nat := 0
  deriving Repr, DecidableEq

/-- A step of a writer. A step that fails leaves in the buffer what it has written. -/
abbrev WriteM :=
  EStateM RenderError Writer

namespace WriteM

def write (text : String) : WriteM Unit :=
  modify fun writer => { writer with output := writer.output ++ text }

def writeIf (wanted : Bool) (text : String) : WriteM Unit :=
  if wanted then write text else pure ()

/-- Do a step that depends on the style of the writer. -/
def styled (step : Style → WriteM Unit) : WriteM Unit := do
  step (← get).style

/-- Write items one after another, with a separator between each two. -/
def separated {α : Type} (separator : String) (item : α → WriteM Unit) : List α → WriteM Unit
  | [] => pure ()
  | first :: rest => do
      item first
      rest.forM fun next => do
        write separator
        item next

def commaSeparated {α : Type} (item : α → WriteM Unit) (items : List α) : WriteM Unit :=
  separated ", " item items

/-! ## Names -/

/-- An identifier of a node of the given kind. -/
def identifier (kind : NodeKind) (identifier : Identifier) : WriteM Unit :=
  if identifier.isEmpty then throw ⟨kind, .emptyIdentifier⟩
  else styled fun style =>
    if style.needsQuotes identifier then write (Text.delimited style.quote identifier.name)
    else write identifier.name

def tableName (table : TableName) : WriteM Unit := do
  table.schema.forM fun schema => do
    identifier .tableName schema
    write "."
  identifier .tableName table.name

/-- A column of a node of the given kind, under its table if it names one. -/
def column (kind : NodeKind) (table : Option TableName) (column : Identifier) : WriteM Unit := do
  table.forM fun table => do
    tableName table
    write "."
  identifier kind column

/-! ## Expressions -/

/-- Write an expression of the given kind, one level deeper than what is around it. The level comes
    back whether the expression can be written or not. -/
def nested (kind : NodeKind) (body : WriteM Unit) : WriteM Unit := fun writer =>
  match writer.style.maxDepth.filter (· ≤ writer.depth) with
  | some limit => .error ⟨kind, .tooDeep limit⟩ writer
  | none =>
      match body.run { writer with depth := writer.depth + 1 } with
      | .ok () after => .ok () { after with depth := after.depth - 1 }
      | .error error after => .error error { after with depth := after.depth - 1 }

/-- Put what is written in parentheses if they are wanted. -/
def parenthesized (wanted : Bool) (body : WriteM Unit) : WriteM Unit :=
  if wanted then do
    write "("
    body
    write ")"
  else body

def expr : Expr → WriteM Unit
  | .column table name _ => nested .columnReference (column .columnReference table name)
  | .number literal _ => nested .numericConstant (write literal)
  | .string value _ => nested .stringConstant (write (stringLiteral value))
  | .boolean value _ => nested .booleanConstant (write (if value then "TRUE" else "FALSE"))
  | .null _ => nested .nullConstant (write "NULL")
  | .binary op left right _ => nested .binaryOperator do
      parenthesized (left.binding < op.precedence) (expr left)
      write (" " ++ op.symbol ++ " ")
      parenthesized (right.binding ≤ op.precedence) (expr right)
  | .not operand _ => nested .not do
      write "NOT "
      parenthesized (operand.binding < notPrecedence) (expr operand)
  | .isNull operand negated _ => nested .isNull do
      parenthesized (operand.binding ≤ isNullPrecedence) (expr operand)
      write (if negated then " IS NOT NULL" else " IS NULL")

/-! ## Parts of statements -/

def columnList (list : ColumnList) : WriteM Unit :=
  if list.columns.isEmpty then throw ⟨.columnList, .emptyColumnList⟩
  else commaSeparated (identifier .columnList) list.columns

def keyColumns (list : ColumnList) : WriteM Unit := do
  write "("
  columnList list
  write ")"

def indexColumn (index : IndexColumn) : WriteM Unit := do
  column .indexColumn index.table index.column
  writeIf (!index.ascending) " DESC"

def indexColumnList (list : IndexColumnList) : WriteM Unit :=
  if list.columns.isEmpty then throw ⟨.indexColumnList, .noIndexColumns⟩
  else commaSeparated indexColumn list.columns

/-- The options of a node of the given kind, in the order of their keys. -/
def options (kind : NodeKind) (bag : Options) : WriteM Unit :=
  match bag.invalidKey? with
  | some key => throw ⟨kind, .invalidOptionKey key⟩
  | none => commaSeparated (fun entry => write (optionEntry entry)) bag.entries

/-- The options in parentheses behind `opening`, or nothing if there are none. -/
def optionClause (kind : NodeKind) (opening : String) (bag : Options) : WriteM Unit :=
  if bag.isEmpty then pure ()
  else do
    write (opening ++ "(")
    options kind bag
    write ")"

def storageFormat (storage : StorageFormat) : WriteM Unit := do
  write "STORAGE_FORMAT "
  identifier .storageFormat storage.format
  optionClause .storageFormat "" storage.options

/-- The storage format at the end of a definition, if there is one. -/
def storageClause (storage : Option StorageFormat) : WriteM Unit :=
  storage.forM fun storage => do
    write " "
    storageFormat storage

/-- Whether a thing has to be there, in front of its name. -/
def existence (check : ExistenceCheck) : WriteM Unit :=
  check.keyword?.forM fun keyword => write (keyword ++ " ")

/-- What becomes of the things that depend on a dropped one, at the end. -/
def behavior (behavior : Option DropBehavior) : WriteM Unit :=
  behavior.forM fun behavior => write (" " ++ behavior.keyword)

def columnDefinition (column : ColumnDefinition) : WriteM Unit := do
  identifier .columnDefinition column.name
  write (" " ++ column.dataType.text)
  column.defaultValue.forM fun value => do
    write " DEFAULT "
    expr value
  writeIf column.notNull " NOT NULL"

def foreignKey (key : ForeignKey) : WriteM Unit := do
  writeIf key.grouping "GROUPING "
  write "FOREIGN KEY "
  keyColumns key.columns
  write " REFERENCES "
  tableName key.refTable
  key.refColumns.forM fun columns => do
    write " "
    keyColumns columns
  key.matchType.forM fun matchType => write (" MATCH " ++ matchType.keyword)
  write (" ON DELETE " ++ key.deleteRule.keyword)
  write (" ON UPDATE " ++ key.updateRule.keyword)
  if key.deferrable then
    write " DEFERRABLE"
    writeIf key.initiallyDeferred " INITIALLY DEFERRED"

/-- A drop of a constraint. Only the primary key is dropped without a name. -/
def constraintDrop (name : Option TableName) (drop : ConstraintDrop) : WriteM Unit := do
  write "DROP "
  writeIf drop.grouping "GROUPING "
  write drop.constraintType.keyword
  drop.existence.keyword?.forM fun keyword => write (" " ++ keyword)
  match name with
  | some name =>
      write " "
      tableName name
  | none =>
      if drop.constraintType != .primaryKey then throw ⟨.constraintDefinition, .unnamedDrop⟩
  behavior drop.behavior

/-- The name in front of a definition. -/
def constraintName (name : Option TableName) : WriteM Unit :=
  name.forM fun name => do
    write "CONSTRAINT "
    tableName name
    write " "

def constraint (constraint : Constraint) : WriteM Unit := do
  match constraint.body with
  | .primaryKey columns =>
      constraintName constraint.name
      write "PRIMARY KEY "
      keyColumns columns
  | .unique columns =>
      constraintName constraint.name
      write "UNIQUE "
      keyColumns columns
  | .check condition =>
      constraintName constraint.name
      write "CHECK ("
      expr condition
      write ")"
  | .foreignKey key =>
      constraintName constraint.name
      foreignKey key
  | .drop drop => constraintDrop constraint.name drop

/-- The columns and the join of an index, from the opening parenthesis on. -/
def indexBody (index : IndexDefinition) : WriteM Unit := do
  write "("
  indexColumnList index.columns
  write ")"
  write (joinClause index.joinType)

def indexConstraint (constraint : IndexConstraint) : WriteM Unit := do
  writeIf constraint.index.unique "UNIQUE "
  write "INDEX "
  identifier .indexConstraint constraint.name
  write " "
  indexBody constraint.index
  storageClause constraint.index.storageFormat

/-! ## Statements -/

def createIndex (create : CreateIndex) : WriteM Unit := do
  write "CREATE "
  writeIf create.index.unique "UNIQUE "
  write "INDEX "
  existence create.existence
  tableName create.name
  write " ON "
  tableName create.table
  write " "
  indexBody create.index
  optionClause .createIndex " WITH " create.options
  storageClause create.index.storageFormat

def dropIndex (drop : DropIndex) : WriteM Unit := do
  write "DROP INDEX "
  existence drop.existence
  tableName drop.name

def tableElement : TableElement → WriteM Unit
  | .column column => columnDefinition column
  | .constraint c => constraint c
  | .index index => indexConstraint index

def createTable (create : CreateTable) : WriteM Unit := do
  if create.elements.isEmpty then throw ⟨.createTable, .noTableElements⟩
  else
    write "CREATE TABLE "
    existence create.existence
    tableName create.name
    write " ("
    commaSeparated tableElement create.elements
    write ")"
    storageClause create.storageFormat

def dropTable (drop : DropTable) : WriteM Unit := do
  write "DROP TABLE "
  existence drop.existence
  tableName drop.name
  behavior drop.behavior

def alterAction : AlterAction → WriteM Unit
  | .addConstraint c => do
      write "ADD "
      constraint c
  | .dropConstraint c => constraint c
  | .addColumn column => do
      write "ADD COLUMN "
      columnDefinition column
  | .dropColumn column check => do
      write "DROP COLUMN "
      existence check
      identifier .alterTable column

def alterTable (alter : AlterTable) : WriteM Unit := do
  if alter.actions.isEmpty then throw ⟨.alterTable, .noActions⟩
  else
    write "ALTER TABLE "
    tableName alter.name
    write " "
    commaSeparated alterAction alter.actions

def statement : Statement → WriteM Unit
  | .createIndex create => createIndex create
  | .dropIndex drop => dropIndex drop
  | .createTable create => createTable create
  | .dropTable drop => dropTable drop
  | .alterTable alter => alterTable alter

def node : Node → WriteM Unit
  | .tableName name => tableName name
  | .expr e => expr e
  | .columnList columns => columnList columns
  | .indexColumn column => indexColumn column
  | .indexColumnList columns => indexColumnList columns
  | .storageFormat storage => storageFormat storage
  | .columnDefinition column => columnDefinition column
  | .constraint c => constraint c
  | .indexConstraint index => indexConstraint index
  | .statement s => statement s

/-- A script: a semicolon ends every statement, and the separator stands between two of them. -/
def script (separator : String) (script : Script) : WriteM Unit :=
  separated separator
    (fun s => do
      statement s
      write ";")
    script.statements

end WriteM

namespace Writer

/-- Write into an empty buffer, and take out what has been written. If writing fails, the rest of
    it stays in the buffer. -/
def take (writer : Writer) (body : WriteM Unit) : Except RenderError String × Writer :=
  match body.run { writer with output := "", depth := 0 } with
  | .ok () after => (.ok after.output, { after with output := "" })
  | .error error after => (.error error, after)

/-- Render a node. -/
def generate (writer : Writer) (node : Node) : Except RenderError String × Writer :=
  writer.take (WriteM.node node)

/-- Render a script. -/
def generateScript (writer : Writer) (script : Script) : Except RenderError String × Writer :=
  writer.take (WriteM.script writer.style.separator script)

end Writer

end DdlTree
