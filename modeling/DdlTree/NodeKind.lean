import DdlTree.Vocabulary

/-! # Kinds of nodes

The closed list of node kinds and their names. Five kinds are statements.
-/

namespace DdlTree

/-- The kind of a node. -/
inductive NodeKind where
  | tableName
  | columnReference
  | numericConstant
  | stringConstant
  | booleanConstant
  | nullConstant
  | binaryOperator
  | not
  | isNull
  | columnList
  | indexColumn
  | indexColumnList
  | storageFormat
  | columnDefinition
  | constraintDefinition
  | indexConstraint
  | createIndex
  | dropIndex
  | createTable
  | dropTable
  | alterTable
  deriving Repr, DecidableEq

namespace NodeKind

/-- Every kind, in order. -/
def all : List NodeKind :=
  [.tableName, .columnReference, .numericConstant, .stringConstant, .booleanConstant,
   .nullConstant, .binaryOperator, .not, .isNull, .columnList, .indexColumn, .indexColumnList,
   .storageFormat, .columnDefinition, .constraintDefinition, .indexConstraint, .createIndex,
   .dropIndex, .createTable, .dropTable, .alterTable]

def name : NodeKind → String
  | .tableName => "TableName"
  | .columnReference => "ColumnReference"
  | .numericConstant => "NumericConstant"
  | .stringConstant => "StringConstant"
  | .booleanConstant => "BooleanConstant"
  | .nullConstant => "NullConstant"
  | .binaryOperator => "BinaryOperator"
  | .not => "Not"
  | .isNull => "IsNull"
  | .columnList => "ColumnList"
  | .indexColumn => "IndexColumn"
  | .indexColumnList => "IndexColumnList"
  | .storageFormat => "StorageFormat"
  | .columnDefinition => "ColumnDefinition"
  | .constraintDefinition => "ConstraintDefinition"
  | .indexConstraint => "IndexConstraint"
  | .createIndex => "CreateIndex"
  | .dropIndex => "DropIndex"
  | .createTable => "CreateTable"
  | .dropTable => "DropTable"
  | .alterTable => "AlterTable"

def vocabulary : Vocabulary NodeKind where
  noun := "node kind"
  words := all.map fun kind => (kind.name, kind)

/-- Whether a node of this kind can stand alone as a statement. -/
def isStatement : NodeKind → Bool
  | .createIndex | .dropIndex | .createTable | .dropTable | .alterTable => true
  | _ => false

end NodeKind

end DdlTree
