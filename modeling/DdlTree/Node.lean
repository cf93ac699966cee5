import DdlTree.Statement

/-! # Nodes

A node is any part of a statement, or a whole one. Names, lists and definitions that other nodes
hold are nodes of their own when they are looked at by themselves.
-/

namespace DdlTree

inductive Node where
  | tableName (name : TableName)
  | expr (expr : Expr)
  | columnList (columns : ColumnList)
  | indexColumn (column : IndexColumn)
  | indexColumnList (columns : IndexColumnList)
  | storageFormat (storage : StorageFormat)
  | columnDefinition (column : ColumnDefinition)
  | constraint (constraint : Constraint)
  | indexConstraint (index : IndexConstraint)
  | statement (statement : Statement)
  deriving Repr, DecidableEq

namespace Node

def kind : Node → NodeKind
  | .tableName _ => .tableName
  | .expr e => e.kind
  | .columnList _ => .columnList
  | .indexColumn _ => .indexColumn
  | .indexColumnList _ => .indexColumnList
  | .storageFormat _ => .storageFormat
  | .columnDefinition _ => .columnDefinition
  | .constraint _ => .constraintDefinition
  | .indexConstraint _ => .indexConstraint
  | .statement s => s.kind

def span : Node → Span
  | .tableName name => name.span
  | .expr e => e.span
  | .columnList columns => columns.span
  | .indexColumn column => column.span
  | .indexColumnList columns => columns.span
  | .storageFormat storage => storage.span
  | .columnDefinition column => column.span
  | .constraint c => c.span
  | .indexConstraint index => index.span
  | .statement s => s.span

/-- The node at another position; its parts stay where they are. -/
def withSpan (span : Span) : Node → Node
  | .tableName name => .tableName { name with span }
  | .expr e => .expr (e.withSpan span)
  | .columnList columns => .columnList { columns with span }
  | .indexColumn column => .indexColumn { column with span }
  | .indexColumnList columns => .indexColumnList { columns with span }
  | .storageFormat storage => .storageFormat { storage with span }
  | .columnDefinition column => .columnDefinition { column with span }
  | .constraint c => .constraint { c with span }
  | .indexConstraint index => .indexConstraint { index with span }
  | .statement s => .statement (s.withSpan span)

def tableName? : Node → Option TableName
  | .tableName name => some name
  | _ => none

def expr? : Node → Option Expr
  | .expr e => some e
  | _ => none

def columnList? : Node → Option ColumnList
  | .columnList columns => some columns
  | _ => none

def indexColumn? : Node → Option IndexColumn
  | .indexColumn column => some column
  | _ => none

def indexColumnList? : Node → Option IndexColumnList
  | .indexColumnList columns => some columns
  | _ => none

def storageFormat? : Node → Option StorageFormat
  | .storageFormat storage => some storage
  | _ => none

def columnDefinition? : Node → Option ColumnDefinition
  | .columnDefinition column => some column
  | _ => none

def constraint? : Node → Option Constraint
  | .constraint c => some c
  | _ => none

def indexConstraint? : Node → Option IndexConstraint
  | .indexConstraint index => some index
  | _ => none

def statement? : Node → Option Statement
  | .statement s => some s
  | _ => none

def isStatement (node : Node) : Bool :=
  node.kind.isStatement

/-- The definition of a node that defines an index. -/
def index? : Node → Option IndexDefinition
  | .statement (.createIndex create) => some create.index
  | .indexConstraint index => some index.index
  | _ => none

theorem isStatement_iff {node : Node} : node.isStatement ↔ ∃ s, node = .statement s := by
  cases node with
  | expr e => cases e <;> simp [isStatement, kind, Expr.kind, NodeKind.isStatement]
  | statement s => cases s <;> simp [isStatement, kind, Statement.kind, NodeKind.isStatement]
  | _ => simp [isStatement, kind, NodeKind.isStatement]

/-- A new position does not change the kind. -/
@[simp] theorem kind_withSpan (span : Span) (node : Node) :
    (node.withSpan span).kind = node.kind := by
  cases node with
  | expr e => cases e <;> rfl
  | statement s => cases s <;> rfl
  | _ => rfl

/-- A node stands at the position that it was given. -/
@[simp] theorem span_withSpan (span : Span) (node : Node) : (node.withSpan span).span = span := by
  cases node with
  | expr e => cases e <;> rfl
  | statement s => cases s <;> rfl
  | _ => rfl

end Node

end DdlTree
