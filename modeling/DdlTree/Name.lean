import DdlTree.Change
import DdlTree.Error
import DdlTree.Span
import DdlTree.Text

/-! # Names

Identifiers, possibly qualified object names, and lists of column names. An identifier remembers
whether it was delimited where it was read, and two identifiers that differ only in this are
different identifiers of the same name.
-/

namespace DdlTree

/-- A name of one part. -/
structure Identifier where
  name : String
  /-- Whether the name was delimited where it was read. -/
  quoted : Bool
  deriving Repr, DecidableEq

namespace Identifier

def regular (name : String) : Identifier := ⟨name, false⟩

def delimited (name : String) : Identifier := ⟨name, true⟩

def isEmpty (identifier : Identifier) : Bool :=
  identifier.name.isEmpty

/-- The identifier as it is shown: a delimited one in double quotes. -/
def text (identifier : Identifier) : String :=
  if identifier.quoted then Text.delimited '"' identifier.name else identifier.name

end Identifier

/-- The name of a table, an index or a constraint, with an optional schema. -/
structure TableName where
  schema : Option Identifier
  name : Identifier
  span : Span := {}
  deriving Repr, DecidableEq

namespace TableName

/-- A table name, unless a part of it is empty. -/
def build (schema : Option Identifier) (name : Identifier) : Except BuildError TableName :=
  if name.isEmpty then .error (.malformed .tableName .emptyName)
  else if schema.any Identifier.isEmpty then .error (.malformed .tableName .emptySchema)
  else .ok { schema, name }

/-- Read a dotted name of one or two regular parts. -/
def parse (text : String) : Except BuildError TableName :=
  match text.toList.dropWhile (· != '.') with
  | [] => build none (.regular text)
  | _ :: name =>
      if name.contains '.' then .error (.malformed .tableName (.tooManyQualifiers text))
      else
        build (some (.regular (String.ofList (text.toList.takeWhile (· != '.')))))
          (.regular (String.ofList name))

/-- Whether the name has a schema. -/
def isQualified (table : TableName) : Bool :=
  table.schema.isSome

/-- The name as it is shown, its parts joined by a dot. -/
def text (table : TableName) : String :=
  match table.schema with
  | some schema => schema.text ++ "." ++ table.name.text
  | none => table.name.text

/-- Whether two names are the same, wherever they stand. -/
def sameObject (a b : TableName) : Bool :=
  a.schema == b.schema && a.name == b.name

end TableName

/-- A column as it is shown under the table that qualifies it. -/
def qualifiedText (table : TableName) (column : Identifier) : String :=
  table.text ++ "." ++ column.text

/-- The columns of a key. -/
structure ColumnList where
  columns : List Identifier
  span : Span := {}
  deriving Repr, DecidableEq

namespace ColumnList

/-- Check columns from left to right; `seen` holds the names to their left. -/
def check (seen : List String) : List Identifier → Except BuildError Unit
  | [] => .ok ()
  | column :: rest =>
      if column.isEmpty then .error (.malformed .columnList .emptyColumnName)
      else if seen.contains column.name then
        .error (.malformed .columnList (.duplicateColumn column.text))
      else check (column.name :: seen) rest

/-- A column list: at least one column, no empty name, no name twice. -/
def build (columns : List Identifier) : Except BuildError ColumnList := do
  if columns.isEmpty then .error (.malformed .columnList .emptyColumnList)
  check [] columns
  return { columns }

/-- A column list of regular names. -/
def ofNames (names : List String) : Except BuildError ColumnList :=
  build (names.map .regular)

/-- Whether a name stands at a position other than `position`. -/
def holdsElsewhere (columns : List Identifier) (position : Nat) (name : String) : Bool :=
  columns.zipIdx.any fun entry => entry.2 != position && entry.1.name == name

/-- Rename the column at a position. The new name may stand nowhere else in the list. -/
def renameStep (position : Nat) (column : Identifier) : ChangeM BuildError ColumnList Unit := do
  if column.isEmpty then throw (.malformed .columnList .emptyColumnName)
  let list ← get
  if holdsElsewhere list.columns position column.name then
    throw (.malformed .columnList (.duplicateColumn column.text))
  if position < list.columns.length then
    set { list with columns := list.columns.set position column }
  else throw (.malformed .columnList (.noColumnAt position))

/-- The list with a column renamed. -/
def rename (list : ColumnList) (position : Nat) (column : Identifier) :
    Except BuildError ColumnList :=
  (renameStep position column).outcome list

theorem renameStep_run (list : ColumnList) (position : Nat) (column : Identifier) :
    (renameStep position column).run list =
      if column.isEmpty then .error (.malformed .columnList .emptyColumnName) list
      else if holdsElsewhere list.columns position column.name then
        .error (.malformed .columnList (.duplicateColumn column.text)) list
      else if position < list.columns.length then
        .ok () { list with columns := list.columns.set position column }
      else .error (.malformed .columnList (.noColumnAt position)) list := by
  by_cases empty : column.isEmpty
  · simp [renameStep, empty]
  by_cases elsewhere : holdsElsewhere list.columns position column.name
  · simp [renameStep, empty, elsewhere]
  by_cases inside : position < list.columns.length <;> simp [renameStep, empty, elsewhere, inside]

end ColumnList

end DdlTree
