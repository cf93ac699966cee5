import DdlTree.NodeKind
import DdlTree.Feature
import DdlTree.Text

/-! # Errors

The reasons why a node cannot be built, read, copied or rendered. Each activity has an error type
of its own, and the wording of every reason stands in one function per type.
-/

namespace DdlTree

/-- What a place in an argument list asks for. -/
inductive Shape where
  | bool
  | int
  | text
  | textOrInt
  | identifier
  | tag
  | node (kind : NodeKind)
  | value
  | nodes
  | list
  | options
  deriving Repr, DecidableEq

/-- The noun phrase for what a place asks for. -/
def Shape.phrase : Shape → String
  | .bool => "a bool"
  | .int => "an int"
  | .text => "a str"
  | .textOrInt => "a str or int"
  | .identifier => "an identifier"
  | .tag => "a tag"
  | .node kind => s!"a {kind.name} node"
  | .value => "a value expression"
  | .nodes => "a node list"
  | .list => "a list"
  | .options => "options"

/-- What is wrong with the parts that a node was to be built from. Names are given as written. -/
inductive Fault where
  /-- A table name without a name. -/
  | emptyName
  /-- A table name with an empty schema. -/
  | emptySchema
  /-- More than one dot in a dotted name. -/
  | tooManyQualifiers (text : String)
  | emptyColumnName
  | emptyColumnList
  | duplicateColumn (column : String)
  | noColumnAt (position : Nat)
  | notNumeric (text : String)
  /-- An index column list without columns. -/
  | noIndexColumns
  | indexedTwice (column : String)
  | emptyIndexName
  | emptyFormatName
  | invalidOptionKey (key : String)
  /-- A group index with a column that names no table. -/
  | unqualifiedGroupColumn
  /-- A plain index with a column of a table that is not its own. -/
  | foreignColumn (table indexed : String)
  | ifExistsOnCreate
  | ifNotExistsOnDrop
  | deferredNotDeferrable
  | columnCountMismatch (columns referenced : Nat)
  | unnamedDrop (constraintType : String)
  | groupingDropOfOther
  /-- A named drop that was to lose its name. -/
  | dropMustStayNamed
  | typeTakesNoParameters (type : String)
  | typeTakesNoScale (type : String)
  | typeNeedsParameter (type parameter : String)
  | parameterNotPositive (type parameter : String) (value : Int)
  | negativeScale (value : Int)
  | invalidDecimal (precision scale : Nat)
  | unknownType (tag : String)
  | definedTwice (column : String)
  | dropInTable
  | noTableColumn
  | noActions
  | addOfDrop
  | dropOfDefinition
  | notStatement
  | argumentCount (expected found : Nat)
  /-- An argument of the wrong shape. Positions start at 1. -/
  | argumentShape (position : Nat) (field : String) (expected : Shape) (nullable : Bool)
      (found : String)
  | argumentTag (field : String) (unknown : UnknownWord)
  | argumentCode (field : String) (code : Int)
  | missingSubKind
  | unknownSubKind (tag : String)
  | notColumnReference (found : NodeKind)
  | qualifiedColumn (column : String)
  | notTableElement (found : NodeKind)
  | dropColumnNotReference (found : NodeKind)
  | qualifiedDropColumn (column : String)
  | notAlterAction (found : String)
  deriving Repr, DecidableEq

/-- The report of a referential action code that stands for nothing. -/
def actionCodeMessage (code : Int) : String :=
  s!"referential action code {code} is outside 0..=4"

namespace Fault

def message : Fault → String
  | emptyName => "name must not be empty"
  | emptySchema => "schema qualifier must not be empty"
  | tooManyQualifiers text => s!"too many qualifiers in {text}"
  | emptyColumnName => "column name must not be empty"
  | emptyColumnList => "column list must not be empty"
  | duplicateColumn column => s!"duplicate column {column}"
  | noColumnAt position => s!"no column at position {position}"
  | notNumeric text => s!"not a numeric literal: {text}"
  | noIndexColumns => "an index needs at least one column"
  | indexedTwice column => s!"column {column} is indexed twice"
  | emptyIndexName => "index name must not be empty"
  | emptyFormatName => "format name must not be empty"
  | invalidOptionKey key => s!"invalid option key {Text.escaped key}"
  | unqualifiedGroupColumn => "every column of a group index must be qualified by its table"
  | foreignColumn table indexed => s!"column of table {table} in an index on {indexed}"
  | ifExistsOnCreate => "IF EXISTS is not valid on a create"
  | ifNotExistsOnDrop => "IF NOT EXISTS is not valid on a drop"
  | deferredNotDeferrable => "INITIALLY DEFERRED requires a DEFERRABLE constraint"
  | columnCountMismatch columns referenced =>
      s!"foreign key has {columns} columns but references {referenced}"
  | unnamedDrop constraintType => s!"dropping a {constraintType} constraint requires its name"
  | groupingDropOfOther => "only foreign keys can be dropped as GROUPING"
  | dropMustStayNamed => "a dropped constraint must stay named"
  | typeTakesNoParameters type => s!"{type} takes no parameters"
  | typeTakesNoScale type => s!"{type} takes no scale"
  | typeNeedsParameter type parameter => s!"{type} needs a {parameter}"
  | parameterNotPositive type parameter value =>
      s!"{type} {parameter} must be positive, got {value}"
  | negativeScale value => s!"DECIMAL scale must not be negative, got {value}"
  | invalidDecimal precision scale => s!"invalid DECIMAL({precision}, {scale})"
  | unknownType tag => s!"unknown data type {tag}"
  | definedTwice column => s!"column {column} is defined twice"
  | dropInTable => "a constraint drop cannot appear in CREATE TABLE"
  | noTableColumn => "a table needs at least one column"
  | noActions => "ALTER TABLE needs at least one action"
  | addOfDrop => "cannot ADD a constraint drop"
  | dropOfDefinition => "cannot DROP a constraint definition"
  | notStatement => "only statements can be added to a statement list"
  | argumentCount expected found => s!"expected {expected} arguments, got {found}"
  | argumentShape position field expected nullable found =>
      let orNull := if nullable then " or null" else ""
      s!"argument {position} ({field}) must be {expected.phrase}{orNull}, got {found}"
  | argumentTag field unknown => s!"{field}: {unknown.message}"
  | argumentCode field code => s!"{field}: {actionCodeMessage code}"
  | missingSubKind => "missing constraint sub-kind"
  | unknownSubKind tag => s!"unknown constraint sub-kind {tag}"
  | notColumnReference found => s!"expected a column reference, got {found.name}"
  | qualifiedColumn column => s!"column {column} must not be qualified"
  | notTableElement found => s!"{found.name} cannot appear in a table definition"
  | dropColumnNotReference found => s!"DROP COLUMN needs a column reference, got {found.name}"
  | qualifiedDropColumn column => s!"DROP COLUMN {column} must not be qualified"
  | notAlterAction found => s!"{found} is not an ALTER TABLE action"

end Fault

/-- Why a node was not built. -/
inductive BuildError where
  /-- The parts do not fit together, or do not fit the kind. -/
  | malformed (kind : NodeKind) (fault : Fault)
  /-- The node uses an extension that the session has not enabled. -/
  | disabled (feature : Feature)
  deriving Repr, DecidableEq

/-- The report of a node that was not built. -/
def BuildError.message : BuildError → String
  | .malformed kind fault => s!"Malformed {kind.name} construction: {fault.message}"
  | .disabled feature => s!"Feature {feature.name} is not enabled"

/-- Why a node was not copied. -/
inductive CopyFault where
  /-- The node lies deeper than the session lets a copy go. -/
  | tooDeep (limit : Nat)
  /-- The session refuses to build the node anew. -/
  | refused (error : BuildError)
  deriving Repr, DecidableEq

/-- A copy that failed, at the innermost node that could not be built anew. -/
structure CopyError where
  kind : NodeKind
  fault : CopyFault
  deriving Repr, DecidableEq

def CopyFault.message : CopyFault → String
  | .tooDeep limit => s!"tree is deeper than the copy limit of {limit}"
  | .refused error => error.message

/-- The report of a failed copy. -/
def CopyError.message (error : CopyError) : String :=
  s!"Copy of {error.kind.name} failed: {error.fault.message}"

/-- What a renderer cannot write. -/
inductive RenderFault where
  | emptyIdentifier
  | emptyColumnList
  | noIndexColumns
  | invalidOptionKey (key : String)
  | unnamedDrop
  | noTableElements
  | noActions
  | tooDeep (limit : Nat)
  deriving Repr, DecidableEq

/-- A node that was not rendered. -/
structure RenderError where
  kind : NodeKind
  fault : RenderFault
  deriving Repr, DecidableEq

def RenderFault.message : RenderFault → String
  | .emptyIdentifier => "empty identifier"
  | .emptyColumnList => "empty column list"
  | .noIndexColumns => "index without columns"
  | .invalidOptionKey key => s!"invalid option key {Text.escaped key}"
  | .unnamedDrop => "constraint drop without a name"
  | .noTableElements => "table without elements"
  | .noActions => "no actions"
  | .tooDeep limit => s!"expression is nested deeper than {limit}"

/-- The report of a node that was not rendered. -/
def RenderError.message (error : RenderError) : String :=
  s!"Cannot render {error.kind.name}: {error.fault.message}"

end DdlTree
