import DdlTree.Name
import DdlTree.Text

/-! # Rendering styles

What can be chosen about rendered SQL, and how identifiers and string literals are written in it. An
identifier stands bare only if it was read bare, is a bare word of one case, and is not reserved.
-/

namespace DdlTree

/-- The choices of a renderer. -/
structure Style where
  /-- The mark around delimited identifiers. -/
  quote : Char := '"'
  /-- Whether every identifier is delimited. -/
  quoteAll : Bool := false
  /-- What stands between the statements of a script. -/
  separator : String := "\n"
  /-- How many expressions deep a rendered expression may be; `none` for no limit. -/
  maxDepth : Option Nat := none
  deriving Repr, DecidableEq

/-- Words that are never written bare as identifiers, in upper case. -/
def reservedWords : List String :=
  ["ADD", "ALL", "ALTER", "AND", "AS", "ASC", "BETWEEN", "BY", "CASCADE", "CASE", "CHECK",
   "COLUMN", "CONSTRAINT", "CREATE", "CROSS", "DEFAULT", "DEFERRABLE", "DELETE", "DESC",
   "DISTINCT", "DROP", "ELSE", "END", "EXISTS", "FALSE", "FOR", "FOREIGN", "FROM", "FULL",
   "GROUP", "GROUPING", "HAVING", "IF", "IN", "INDEX", "INNER", "INSERT", "INTO", "IS", "JOIN",
   "KEY", "LEFT", "LIKE", "MATCH", "NOT", "NULL", "ON", "OR", "ORDER", "OUTER", "PRIMARY",
   "REFERENCES", "RESTRICT", "RIGHT", "SELECT", "SET", "TABLE", "THEN", "TO", "TRUE", "UNION",
   "UNIQUE", "UPDATE", "USING", "VALUES", "WHEN", "WHERE", "WITH"]

/-- A text with its ASCII letters in upper case. -/
def upperCase (text : String) : String :=
  String.ofList (text.toList.map Char.toUpper)

/-- Whether a text is a reserved word in any case. -/
def isReserved (text : String) : Bool :=
  reservedWords.contains (upperCase text)

/-- Whether a text has ASCII letters of both cases. -/
def isMixedCase (text : String) : Bool :=
  text.toList.any Char.isUpper && text.toList.any Char.isLower

namespace Style

/-- Whether an identifier is delimited. -/
def needsQuotes (style : Style) (identifier : Identifier) : Bool :=
  style.quoteAll || identifier.quoted || !Text.isBareWord identifier.name
    || isMixedCase identifier.name || isReserved identifier.name

/-- An identifier of a node of the given kind. -/
def identifier (style : Style) (kind : NodeKind) (identifier : Identifier) :
    Except RenderError String :=
  if identifier.isEmpty then .error ⟨kind, .emptyIdentifier⟩
  else if style.needsQuotes identifier then .ok (Text.delimited style.quote identifier.name)
  else .ok identifier.name

def tableName (style : Style) (table : TableName) : Except RenderError String := do
  match table.schema with
  | some schema =>
      let schema ← style.identifier .tableName schema
      let name ← style.identifier .tableName table.name
      return schema ++ "." ++ name
  | none => style.identifier .tableName table.name

/-- A column of a node of the given kind, under its table if it names one. -/
def column (style : Style) (kind : NodeKind) (table : Option TableName) (column : Identifier) :
    Except RenderError String := do
  match table with
  | some table =>
      let table ← style.tableName table
      let column ← style.identifier kind column
      return table ++ "." ++ column
  | none => style.identifier kind column

end Style

def stringLiteral (value : String) : String :=
  Text.delimited '\x27' value

/-- Texts in a row, with a comma and a space between them. -/
def commaSeparated (texts : List String) : String :=
  String.intercalate ", " texts

end DdlTree
