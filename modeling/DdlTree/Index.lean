import DdlTree.Name
import DdlTree.Options
import DdlTree.Session

/-! # Indexes

Index columns, storage formats, and what every index definition has in common. An index with a join
type spans the joined tables of a group, so each of its columns says which table it comes from.
-/

namespace DdlTree

/-- How the tables of a group index are joined. -/
inductive JoinType where
  | inner
  | leftOuter
  | rightOuter
  | fullOuter
  deriving Repr, DecidableEq

namespace JoinType

def all : List JoinType :=
  [.inner, .leftOuter, .rightOuter, .fullOuter]

def name : JoinType → String
  | .inner => "Inner"
  | .leftOuter => "LeftOuter"
  | .rightOuter => "RightOuter"
  | .fullOuter => "FullOuter"

def tag : JoinType → String
  | .inner => "INNER"
  | .leftOuter => "LEFT_OUTER"
  | .rightOuter => "RIGHT_OUTER"
  | .fullOuter => "FULL_OUTER"

/-- The word of a join type in a statement. -/
def keyword : JoinType → String
  | .inner => "INNER"
  | .leftOuter => "LEFT"
  | .rightOuter => "RIGHT"
  | .fullOuter => "FULL"

def vocabulary : Vocabulary JoinType where
  noun := "join type"
  words := all.map fun join => (join.tag, join)

end JoinType

/-- A column of an index and its direction. -/
structure IndexColumn where
  table : Option TableName
  column : Identifier
  ascending : Bool
  span : Span := {}
  deriving Repr, DecidableEq

namespace IndexColumn

/-- An index column, unless its name is empty. -/
def build (table : Option TableName) (column : Identifier) (ascending : Bool) :
    Except BuildError IndexColumn :=
  if column.isEmpty then .error (.malformed .indexColumn .emptyColumnName)
  else .ok { table, column, ascending }

/-- Whether two index columns are one column, whatever their directions. -/
def sameColumn (a b : IndexColumn) : Bool :=
  a.column == b.column &&
    match a.table, b.table with
    | some a, some b => a.sameObject b
    | none, none => true
    | _, _ => false

end IndexColumn

/-- The columns of an index, in order. -/
structure IndexColumnList where
  columns : List IndexColumn
  span : Span := {}
  deriving Repr, DecidableEq

namespace IndexColumnList

/-- Check columns from left to right; `before` holds the columns to their left. -/
def check (before : List IndexColumn) : List IndexColumn → Except BuildError Unit
  | [] => .ok ()
  | column :: rest =>
      if before.any fun earlier => earlier.sameColumn column then
        .error (.malformed .indexColumnList (.indexedTwice column.column.text))
      else check (column :: before) rest

/-- An index column list: at least one column and no column twice. -/
def build (columns : List IndexColumn) : Except BuildError IndexColumnList := do
  if columns.isEmpty then .error (.malformed .indexColumnList .noIndexColumns)
  check [] columns
  return { columns }

def allQualified (list : IndexColumnList) : Bool :=
  list.columns.all fun column => column.table.isSome

/-- Give the column at a position a direction. -/
def setAscendingStep (position : Nat) (ascending : Bool) :
    ChangeM BuildError IndexColumnList Unit := do
  let list ← get
  match list.columns[position]? with
  | some column => set { list with columns := list.columns.set position { column with ascending } }
  | none => throw (.malformed .indexColumnList (.noColumnAt position))

/-- The list with a column turned. -/
def setAscending (list : IndexColumnList) (position : Nat) (ascending : Bool) :
    Except BuildError IndexColumnList :=
  (setAscendingStep position ascending).outcome list

theorem setAscendingStep_run (list : IndexColumnList) (position : Nat) (ascending : Bool) :
    (setAscendingStep position ascending).run list = match list.columns[position]? with
      | some column =>
          .ok () { list with columns := list.columns.set position { column with ascending } }
      | none => .error (.malformed .indexColumnList (.noColumnAt position)) list := by
  cases found : list.columns[position]? <;> simp [setAscendingStep, found]

end IndexColumnList

/-- Refuse a bag with a key that is not a bare word. -/
def Options.checkKeys (bag : Options) (kind : NodeKind) : Except BuildError Unit :=
  match bag.invalidKey? with
  | some key => .error (.malformed kind (.invalidOptionKey key))
  | none => .ok ()

/-- A storage format and its options. -/
structure StorageFormat where
  format : Identifier
  options : Options
  span : Span := {}
  deriving Repr, DecidableEq

/-- A storage format, if the session allows any, with a name and bare words for keys. -/
def StorageFormat.build (session : Session) (format : Identifier) (options : Options) :
    Except BuildError StorageFormat := do
  session.require .storageFormat
  if format.isEmpty then .error (.malformed .storageFormat .emptyFormatName)
  options.checkKeys .storageFormat
  return { format, options }

/-- What every index definition has, inside or outside a table. -/
structure IndexDefinition where
  unique : Bool := false
  columns : IndexColumnList
  /-- How the tables are joined, for a group index. -/
  joinType : Option JoinType := none
  storageFormat : Option StorageFormat := none
  deriving Repr, DecidableEq

/-- An index has a column. A group index needs table grouping and has every column qualified. -/
def IndexDefinition.check (session : Session) (kind : NodeKind) (index : IndexDefinition) :
    Except BuildError Unit := do
  if index.columns.columns.isEmpty then .error (.malformed kind .noIndexColumns)
  if index.joinType.isSome then
    session.require .tableGrouping
    if !index.columns.allQualified then .error (.malformed kind .unqualifiedGroupColumn)

/-- An index defined inside a table. -/
structure IndexConstraint where
  name : Identifier
  index : IndexDefinition
  span : Span := {}
  deriving Repr, DecidableEq

/-- An index of a table, if its name is not empty and its definition holds. -/
def IndexConstraint.build (session : Session) (name : Identifier) (index : IndexDefinition) :
    Except BuildError IndexConstraint := do
  if name.isEmpty then .error (.malformed .indexConstraint .emptyIndexName)
  index.check session .indexConstraint
  return { name, index }

end DdlTree
