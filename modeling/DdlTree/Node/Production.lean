import DdlTree.Node.Argument

/-! # Productions

A production is a node kind with a list of arguments. Building its node checks how many arguments
there are, reads them from left to right, and then builds from what was read; so every rule about
nodes holds for the nodes of productions too.
-/

namespace DdlTree.Production

/-- Refuse a list of arguments for its length. -/
def refuseCount {α : Type} (kind : NodeKind) (expected : Nat) (arguments : List Argument) :
    Except BuildError α :=
  .error (.malformed kind (.argumentCount expected arguments.length))

/-- A schema, which may be null, and a name. -/
def tableName : List Argument → Except BuildError Node
  | [schema, name] => do
      let schema ← Place.identifier? ⟨.tableName, 1, "schema"⟩ schema
      let name ← Place.identifier ⟨.tableName, 2, "name"⟩ name
      return .tableName (← TableName.build schema name)
  | arguments => refuseCount .tableName 2 arguments

/-- A table, which may be null, and a column. -/
def columnReference : List Argument → Except BuildError Node
  | [table, column] => do
      let table ← Place.node? ⟨.columnReference, 1, "table"⟩ .tableName Node.tableName? table
      let column ← Place.identifier ⟨.columnReference, 2, "column"⟩ column
      return .expr (← Expr.buildColumn table column)
  | arguments => refuseCount .columnReference 2 arguments

/-- A text or an int. -/
def numericConstant : List Argument → Except BuildError Node
  | [value] => do
      let text ← Place.textOrInt ⟨.numericConstant, 1, "value"⟩ value
      return .expr (← Expr.buildNumber text)
  | arguments => refuseCount .numericConstant 1 arguments

def stringConstant : List Argument → Except BuildError Node
  | [value] => do return .expr (.string (← Place.text ⟨.stringConstant, 1, "value"⟩ value) {})
  | arguments => refuseCount .stringConstant 1 arguments

def booleanConstant : List Argument → Except BuildError Node
  | [value] => do return .expr (.boolean (← Place.bool ⟨.booleanConstant, 1, "value"⟩ value) {})
  | arguments => refuseCount .booleanConstant 1 arguments

def nullConstant : List Argument → Except BuildError Node
  | [] => .ok (.expr (.null {}))
  | arguments => refuseCount .nullConstant 0 arguments

/-- An operator and its two operands. -/
def binaryOperator : List Argument → Except BuildError Node
  | [operator, left, right] => do
      let op ← Place.tag ⟨.binaryOperator, 1, "operator"⟩ BinaryOp.vocabulary operator
      let left ← Place.value ⟨.binaryOperator, 2, "left"⟩ left
      let right ← Place.value ⟨.binaryOperator, 3, "right"⟩ right
      return .expr (.binary op left right {})
  | arguments => refuseCount .binaryOperator 3 arguments

def not : List Argument → Except BuildError Node
  | [operand] => do return .expr (.not (← Place.value ⟨.not, 1, "operand"⟩ operand) {})
  | arguments => refuseCount .not 1 arguments

/-- An operand and whether the test is negated. -/
def isNull : List Argument → Except BuildError Node
  | [operand, negated] => do
      let operand ← Place.value ⟨.isNull, 1, "operand"⟩ operand
      let negated ← Place.bool ⟨.isNull, 2, "negated"⟩ negated
      return .expr (.isNull operand negated {})
  | arguments => refuseCount .isNull 2 arguments

/-- The name of a column reference that names no table. -/
def plainColumn : Node → Except BuildError Identifier
  | .expr (.column none name _) => .ok name
  | .expr (.column (some table) name _) =>
      .error (.malformed .columnList (.qualifiedColumn (qualifiedText table name)))
  | other => .error (.malformed .columnList (.notColumnReference other.kind))

/-- A list of column references without tables. -/
def columnList : List Argument → Except BuildError Node
  | [columns] => do
      let nodes ← Place.nodes ⟨.columnList, 1, "columns"⟩ columns
      return .columnList (← ColumnList.build (← nodes.mapM plainColumn))
  | arguments => refuseCount .columnList 1 arguments

/-- A table, which may be null, a column and whether it ascends. -/
def indexColumn : List Argument → Except BuildError Node
  | [table, column, ascending] => do
      let table ← Place.node? ⟨.indexColumn, 1, "table"⟩ .tableName Node.tableName? table
      let column ← Place.identifier ⟨.indexColumn, 2, "column"⟩ column
      let ascending ← Place.bool ⟨.indexColumn, 3, "ascending"⟩ ascending
      return .indexColumn (← IndexColumn.build table column ascending)
  | arguments => refuseCount .indexColumn 3 arguments

/-- A list of index columns. -/
def indexColumnList : List Argument → Except BuildError Node
  | [columns] => do
      let place : Place := ⟨.indexColumnList, 1, "columns"⟩
      let nodes ← place.nodes columns
      let columns ← nodes.mapM fun node => place.node .indexColumn Node.indexColumn? (.node node)
      return .indexColumnList (← IndexColumnList.build columns)
  | arguments => refuseCount .indexColumnList 1 arguments

/-- A format and options, which may be null. -/
def storageFormat (session : Session) : List Argument → Except BuildError Node
  | [format, options] => do
      let format ← Place.identifier ⟨.storageFormat, 1, "format"⟩ format
      let options ← Place.options ⟨.storageFormat, 2, "options"⟩ options
      return .storageFormat (← StorageFormat.build session format options)
  | arguments => refuseCount .storageFormat 2 arguments

/-- A name, a type with a length and a scale, whether nulls are forbidden, and a default value. The
    length, the scale and the default may be null. -/
def columnDefinition : List Argument → Except BuildError Node
  | [name, type, length, scale, notNull, defaultValue] => do
      let name ← Place.identifier ⟨.columnDefinition, 1, "name"⟩ name
      let tag ← Place.word ⟨.columnDefinition, 2, "data_type"⟩ type
      let length ← Place.int? ⟨.columnDefinition, 3, "length"⟩ length
      let scale ← Place.int? ⟨.columnDefinition, 4, "scale"⟩ scale
      let dataType ← DataType.build tag length scale
      let notNull ← Place.bool ⟨.columnDefinition, 5, "not_null"⟩ notNull
      let defaultValue ← Place.value? ⟨.columnDefinition, 6, "default"⟩ defaultValue
      return .columnDefinition (← ColumnDefinition.build name dataType notNull defaultValue)
  | arguments => refuseCount .columnDefinition 6 arguments

/-- What the first argument of a constraint can ask for. -/
inductive SubKind where
  | primaryKey
  | unique
  | check
  | foreignKey
  | drop
  deriving Repr, DecidableEq

/-- The tags that ask for a constraint. -/
def SubKind.tags : List (String × SubKind) :=
  [("PRIMARY_KEY", .primaryKey), ("UNIQUE", .unique), ("CHECK", .check),
   ("FOREIGN_KEY", .foreignKey), ("DROP", .drop)]

/-- The place of a constraint argument, counted after the argument that asks for the sub-kind. -/
def constraintPlace (position : Nat) (field : String) : Place :=
  ⟨.constraintDefinition, position, field⟩

/-- Read the name of a constraint, which may be null. -/
def constraintName (name : Argument) : Except BuildError (Option TableName) :=
  (constraintPlace 1 "name").node? .tableName Node.tableName? name

/-- The columns of a primary key or a unique constraint. -/
def keyConstraint (session : Session) (body : ColumnList → ConstraintBody) :
    List Argument → Except BuildError Constraint
  | [name, columns] => do
      let name ← constraintName name
      let columns ← (constraintPlace 2 "columns").node .columnList Node.columnList? columns
      Constraint.build session name (body columns)
  | arguments => refuseCount .constraintDefinition 2 arguments

def checkConstraint (session : Session) : List Argument → Except BuildError Constraint
  | [name, condition] => do
      let name ← constraintName name
      let condition ← (constraintPlace 2 "condition").value condition
      Constraint.build session name (.check condition)
  | arguments => refuseCount .constraintDefinition 2 arguments

def foreignKeyConstraint (session : Session) : List Argument → Except BuildError Constraint
  | [name, refTable, columns, refColumns, deleteRule, updateRule, matchType, grouping, deferrable,
      initiallyDeferred] => do
      let name ← constraintName name
      let refTable ← (constraintPlace 2 "ref_table").node .tableName Node.tableName? refTable
      let columns ← (constraintPlace 3 "columns").node .columnList Node.columnList? columns
      let refColumns ←
        (constraintPlace 4 "ref_columns").node? .columnList Node.columnList? refColumns
      let deleteRule ← (constraintPlace 5 "delete_rule").action deleteRule
      let updateRule ← (constraintPlace 6 "update_rule").action updateRule
      let matchType ← (constraintPlace 7 "match_type").tag? MatchType.vocabulary matchType
      let grouping ← (constraintPlace 8 "grouping").bool grouping
      let deferrable ← (constraintPlace 9 "deferrable").bool deferrable
      let initiallyDeferred ← (constraintPlace 10 "initially_deferred").bool initiallyDeferred
      Constraint.build session name (.foreignKey
        { columns, refTable, refColumns, deleteRule, updateRule, matchType, grouping, deferrable,
          initiallyDeferred })
  | arguments => refuseCount .constraintDefinition 10 arguments

def dropConstraint (session : Session) : List Argument → Except BuildError Constraint
  | [name, constraintType, behavior, grouping, existence] => do
      let name ← constraintName name
      let constraintType ←
        (constraintPlace 2 "constraint_type").tag ConstraintType.vocabulary constraintType
      let behavior ← (constraintPlace 3 "behavior").tag? DropBehavior.vocabulary behavior
      let grouping ← (constraintPlace 4 "grouping").bool grouping
      let existence ← (constraintPlace 5 "existence_check").existence existence
      Constraint.build session name (.drop { constraintType, behavior, existence, grouping })
  | arguments => refuseCount .constraintDefinition 5 arguments

def ofSubKind (session : Session) : SubKind → List Argument → Except BuildError Constraint
  | .primaryKey => keyConstraint session .primaryKey
  | .unique => keyConstraint session .unique
  | .check => checkConstraint session
  | .foreignKey => foreignKeyConstraint session
  | .drop => dropConstraint session

/-- A tag that asks for a sub-kind, and the arguments of that sub-kind. -/
def constraintDefinition (session : Session) : List Argument → Except BuildError Node
  | [] => .error (.malformed .constraintDefinition .missingSubKind)
  | .tag tag :: arguments =>
      match SubKind.tags.lookup tag with
      | some subKind => (ofSubKind session subKind arguments).map .constraint
      | none => .error (.malformed .constraintDefinition (.unknownSubKind tag))
  | other :: _ => (constraintPlace 1 "sub_kind").refuse .tag false other

/-- A name, whether the index is unique, its columns, a join type and a storage format. The last two
    may be null. -/
def indexConstraint (session : Session) : List Argument → Except BuildError Node
  | [name, unique, columns, joinType, storageFormat] => do
      let name ← Place.identifier ⟨.indexConstraint, 1, "name"⟩ name
      let unique ← Place.bool ⟨.indexConstraint, 2, "unique"⟩ unique
      let columns ← Place.node ⟨.indexConstraint, 3, "columns"⟩ .indexColumnList
        Node.indexColumnList? columns
      let joinType ← Place.tag? ⟨.indexConstraint, 4, "join_type"⟩ JoinType.vocabulary joinType
      let storageFormat ← Place.node? ⟨.indexConstraint, 5, "storage_format"⟩ .storageFormat
        Node.storageFormat? storageFormat
      return .indexConstraint
        (← IndexConstraint.build session name { unique, columns, joinType, storageFormat })
  | arguments => refuseCount .indexConstraint 5 arguments

/-- Whether the index is unique, its name, its table and its columns; then a join type, options, an
    existence check and a storage format, each of which may be null. -/
def createIndex (session : Session) : List Argument → Except BuildError Node
  | [unique, name, table, columns, joinType, options, existence, storageFormat] => do
      let unique ← Place.bool ⟨.createIndex, 1, "unique"⟩ unique
      let name ← Place.node ⟨.createIndex, 2, "index_name"⟩ .tableName Node.tableName? name
      let table ← Place.node ⟨.createIndex, 3, "table_name"⟩ .tableName Node.tableName? table
      let columns ← Place.node ⟨.createIndex, 4, "columns"⟩ .indexColumnList
        Node.indexColumnList? columns
      let joinType ← Place.tag? ⟨.createIndex, 5, "join_type"⟩ JoinType.vocabulary joinType
      let options ← Place.options ⟨.createIndex, 6, "options"⟩ options
      let existence ← Place.existence ⟨.createIndex, 7, "existence_check"⟩ existence
      let storageFormat ← Place.node? ⟨.createIndex, 8, "storage_format"⟩ .storageFormat
        Node.storageFormat? storageFormat
      let index := { unique, columns, joinType, storageFormat }
      return .statement (.createIndex
        (← CreateIndex.build session { name, table, index, options, existence }))
  | arguments => refuseCount .createIndex 8 arguments

/-- A name and an existence check, which may be null. -/
def dropIndex : List Argument → Except BuildError Node
  | [name, existence] => do
      let name ← Place.node ⟨.dropIndex, 1, "index_name"⟩ .tableName Node.tableName? name
      let existence ← Place.existence ⟨.dropIndex, 2, "existence_check"⟩ existence
      return .statement (.dropIndex (← DropIndex.build name existence))
  | arguments => refuseCount .dropIndex 2 arguments

/-- The table element that a node is. -/
def tableElement : Node → Except BuildError TableElement
  | .columnDefinition column => .ok (.column column)
  | .constraint constraint => .ok (.constraint constraint)
  | .indexConstraint index => .ok (.index index)
  | other => .error (.malformed .createTable (.notTableElement other.kind))

/-- A name, an existence check, a list of elements and a storage format. The check and the format
    may be null. -/
def createTable : List Argument → Except BuildError Node
  | [name, existence, elements, storageFormat] => do
      let name ← Place.node ⟨.createTable, 1, "name"⟩ .tableName Node.tableName? name
      let existence ← Place.existence ⟨.createTable, 2, "existence_check"⟩ existence
      let nodes ← Place.nodes ⟨.createTable, 3, "elements"⟩ elements
      let elements ← nodes.mapM tableElement
      let storageFormat ← Place.node? ⟨.createTable, 4, "storage_format"⟩ .storageFormat
        Node.storageFormat? storageFormat
      return .statement (.createTable
        (← CreateTable.build name existence elements storageFormat))
  | arguments => refuseCount .createTable 4 arguments

/-- A name, an existence check and a behavior. The last two may be null. -/
def dropTable : List Argument → Except BuildError Node
  | [name, existence, behavior] => do
      let name ← Place.node ⟨.dropTable, 1, "name"⟩ .tableName Node.tableName? name
      let existence ← Place.existence ⟨.dropTable, 2, "existence_check"⟩ existence
      let behavior ← Place.tag? ⟨.dropTable, 3, "behavior"⟩ DropBehavior.vocabulary behavior
      return .statement (.dropTable (← DropTable.build name existence behavior))
  | arguments => refuseCount .dropTable 3 arguments

/-- The drop of a column that names no table. -/
def dropColumn (table : Option TableName) (column : Identifier) (existence : ExistenceCheck) :
    Except BuildError AlterAction :=
  match table with
  | some table =>
      .error (.malformed .alterTable (.qualifiedDropColumn (qualifiedText table column)))
  | none => .ok (.dropColumn column existence)

/-- The drop of a column under an existence check. -/
def checkedDropColumn : List Argument → Except BuildError AlterAction
  | [existence, column] => do
      let existence ← Place.existence ⟨.alterTable, 1, "existence_check"⟩ existence
      match ← Place.value ⟨.alterTable, 2, "column"⟩ column with
      | .column table name _ => dropColumn table name existence
      | other => .error (.malformed .alterTable (.dropColumnNotReference other.kind))
  | arguments => refuseCount .alterTable 2 arguments

/-- The action that an argument asks for: a constraint is added or dropped, a column definition is
    added, a column reference is dropped, and a pair drops a column under an existence check. -/
def alterAction : Argument → Except BuildError AlterAction
  | .node (.constraint constraint) => .ok (.ofConstraint constraint)
  | .node (.columnDefinition column) => .ok (.addColumn column)
  | .node (.expr (.column table name _)) => dropColumn table name .noCondition
  | .list pair => checkedDropColumn pair
  | .node other => .error (.malformed .alterTable (.notAlterAction other.kind.name))
  | other => .error (.malformed .alterTable (.notAlterAction other.phrase))

/-- Read a list of actions, given as nodes or as arguments. -/
def actions : Argument → Except BuildError (List Argument)
  | .nodes nodes => .ok (nodes.map .node)
  | .list items => .ok items
  | other => Place.refuse ⟨.alterTable, 2, "actions"⟩ .list false other

/-- A name and a list of actions. -/
def alterTable : List Argument → Except BuildError Node
  | [name, items] => do
      let name ← Place.node ⟨.alterTable, 1, "name"⟩ .tableName Node.tableName? name
      let items ← actions items
      let actions ← items.mapM alterAction
      return .statement (.alterTable (← AlterTable.build name actions))
  | arguments => refuseCount .alterTable 2 arguments

def build (session : Session) : NodeKind → List Argument → Except BuildError Node
  | .tableName => tableName
  | .columnReference => columnReference
  | .numericConstant => numericConstant
  | .stringConstant => stringConstant
  | .booleanConstant => booleanConstant
  | .nullConstant => nullConstant
  | .binaryOperator => binaryOperator
  | .not => not
  | .isNull => isNull
  | .columnList => columnList
  | .indexColumn => indexColumn
  | .indexColumnList => indexColumnList
  | .storageFormat => storageFormat session
  | .columnDefinition => columnDefinition
  | .constraintDefinition => constraintDefinition session
  | .indexConstraint => indexConstraint session
  | .createIndex => createIndex session
  | .dropIndex => dropIndex
  | .createTable => createTable
  | .dropTable => dropTable
  | .alterTable => alterTable

/-- The node of a production, at the position where it was read. -/
def buildAt (session : Session) (span : Span) (kind : NodeKind) (arguments : List Argument) :
    Except BuildError Node :=
  (build session kind arguments).map (·.withSpan span)

end DdlTree.Production
