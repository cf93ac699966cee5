import DdlTree.Proofs.Invariant
import DdlTree.Proofs.StatementTokens

/-! # The arguments of a node

A node tells the arguments of a production that yields it: its own scalars, and its children as they
are. Where a production takes names only as references to columns, a name is handed over as the
reference to a column without a table. What a reader makes of a scalar that is handed over is the
scalar.
-/

namespace DdlTree

/-! ## Scalars as arguments -/

/-- The first word that has a meaning. -/
def Vocabulary.wordFor {α : Type} [DecidableEq α] (vocabulary : Vocabulary α) (meaning : α) :
    String :=
  ((vocabulary.words.find? fun entry => entry.2 = meaning).map Prod.fst).getD ""

/-- Every meaning has a word, and is read from it. -/
def Vocabulary.Complete {α : Type} [DecidableEq α] (vocabulary : Vocabulary α) : Prop :=
  ∀ meaning, vocabulary.read (vocabulary.wordFor meaning) = .ok meaning

namespace Argument

def ofIdentifier (identifier : Identifier) : Argument :=
  if identifier.quoted then .delimited identifier.name else .text identifier.name

def ofWord {α : Type} [DecidableEq α] (vocabulary : Vocabulary α) (meaning : α) : Argument :=
  .tag (vocabulary.wordFor meaning)

def ofNat (n : Nat) : Argument :=
  .int n

/-- An optional part, or null. -/
def ofOption {α : Type} (write : α → Argument) : Option α → Argument
  | none => .null
  | some part => write part

end Argument

/-- A name as the reference to a column without a table. -/
def Identifier.reference (name : Identifier) : Node :=
  .expr (.column none name {})

def DataType.length? : DataType → Option Nat
  | .decimal precision _ => some precision
  | .varchar length => some length
  | .char length => some length
  | _ => none

def DataType.scale? : DataType → Option Nat
  | .decimal _ scale => some scale
  | _ => none

/-! ## Nodes as arguments -/

def Expr.arguments : Expr → List Argument
  | .column table name _ => [.ofOption (.node ∘ .tableName) table, .ofIdentifier name]
  | .number literal _ => [.text literal]
  | .string value _ => [.text value]
  | .boolean value _ => [.bool value]
  | .null _ => []
  | .binary op left right _ =>
      [.ofWord BinaryOp.vocabulary op, .node (.expr left), .node (.expr right)]
  | .not operand _ => [.node (.expr operand)]
  | .isNull operand negated _ => [.node (.expr operand), .bool negated]

def ColumnDefinition.arguments (column : ColumnDefinition) : List Argument :=
  [.ofIdentifier column.name, .tag column.dataType.keyword,
   .ofOption .ofNat column.dataType.length?, .ofOption .ofNat column.dataType.scale?,
   .bool column.notNull,
   .ofOption (.node ∘ .expr) column.defaultValue]

/-- The arguments behind the name of a constraint. -/
def ConstraintBody.arguments : ConstraintBody → List Argument
  | .primaryKey columns => [.node (.columnList columns)]
  | .unique columns => [.node (.columnList columns)]
  | .check condition => [.node (.expr condition)]
  | .foreignKey key =>
      [.node (.tableName key.refTable), .node (.columnList key.columns),
       .ofOption (.node ∘ .columnList) key.refColumns, .int key.deleteRule.code,
       .int key.updateRule.code, .ofOption (.ofWord MatchType.vocabulary) key.matchType,
       .bool key.grouping, .bool key.deferrable, .bool key.initiallyDeferred]
  | .drop d =>
      [.ofWord ConstraintType.vocabulary d.constraintType,
       .ofOption (.ofWord DropBehavior.vocabulary) d.behavior, .bool d.grouping,
       .ofWord ExistenceCheck.vocabulary d.existence]

def ConstraintBody.subKind : ConstraintBody → Production.SubKind
  | .primaryKey _ => .primaryKey
  | .unique _ => .unique
  | .check _ => .check
  | .foreignKey _ => .foreignKey
  | .drop _ => .drop

/-- The tag that asks for a sub-kind. -/
def Production.SubKind.tag : SubKind → String
  | .primaryKey => "PRIMARY_KEY"
  | .unique => "UNIQUE"
  | .check => "CHECK"
  | .foreignKey => "FOREIGN_KEY"
  | .drop => "DROP"

def Constraint.arguments (constraint : Constraint) : List Argument :=
  .tag constraint.body.subKind.tag :: .ofOption (.node ∘ .tableName) constraint.name
    :: constraint.body.arguments

def IndexConstraint.arguments (constraint : IndexConstraint) : List Argument :=
  [.ofIdentifier constraint.name, .bool constraint.index.unique,
   .node (.indexColumnList constraint.index.columns),
   .ofOption (.ofWord JoinType.vocabulary) constraint.index.joinType,
   .ofOption (.node ∘ .storageFormat) constraint.index.storageFormat]

/-- The argument that asks for an action. -/
def AlterAction.argument : AlterAction → Argument
  | .addConstraint constraint => .node (.constraint constraint)
  | .dropConstraint constraint => .node (.constraint constraint)
  | .addColumn column => .node (.columnDefinition column)
  | .dropColumn column existence =>
      .list [.ofWord ExistenceCheck.vocabulary existence, .node column.reference]

def Statement.arguments : Statement → List Argument
  | .createIndex create =>
      [.bool create.index.unique, .node (.tableName create.name), .node (.tableName create.table),
       .node (.indexColumnList create.index.columns),
       .ofOption (.ofWord JoinType.vocabulary) create.index.joinType, .options create.options,
       .ofWord ExistenceCheck.vocabulary create.existence,
       .ofOption (.node ∘ .storageFormat) create.index.storageFormat]
  | .dropIndex drop =>
      [.node (.tableName drop.name), .ofWord ExistenceCheck.vocabulary drop.existence]
  | .createTable create =>
      [.node (.tableName create.name), .ofWord ExistenceCheck.vocabulary create.existence,
       .nodes (create.elements.map TableElement.node),
       .ofOption (.node ∘ .storageFormat) create.storageFormat]
  | .dropTable drop =>
      [.node (.tableName drop.name), .ofWord ExistenceCheck.vocabulary drop.existence,
       .ofOption (.ofWord DropBehavior.vocabulary) drop.behavior]
  | .alterTable alter =>
      [.node (.tableName alter.name), .list (alter.actions.map AlterAction.argument)]

/-- Arguments from which a production yields the node, apart from its position. -/
def Node.arguments : Node → List Argument
  | .tableName table => [.ofOption .ofIdentifier table.schema, .ofIdentifier table.name]
  | .expr e => e.arguments
  | .columnList list => [.nodes (list.columns.map Identifier.reference)]
  | .indexColumn column =>
      [.ofOption (.node ∘ .tableName) column.table, .ofIdentifier column.column,
       .bool column.ascending]
  | .indexColumnList list => [.nodes (list.columns.map .indexColumn)]
  | .storageFormat storage => [.ofIdentifier storage.format, .options storage.options]
  | .columnDefinition column => column.arguments
  | .constraint c => c.arguments
  | .indexConstraint index => index.arguments
  | .statement s => s.arguments

/-- The arguments do not depend on the position. -/
theorem Node.arguments_withSpan (span : Span) (node : Node) :
    (node.withSpan span).arguments = node.arguments := by
  cases node with
  | expr e => cases e <;> rfl
  | statement s => cases s <;> rfl
  | _ => rfl

/-! ## What is written is read -/

section Readers

open Argument

variable {α : Type} {place : Place}

namespace Place

theorem identifier_of (identifier : Identifier) :
    place.identifier (ofIdentifier identifier) = .ok identifier := by
  obtain ⟨name, quoted⟩ := identifier
  cases quoted <;> rfl

theorem identifier?_of (identifier? : Option Identifier) :
    place.identifier? (ofOption ofIdentifier identifier?) = .ok identifier? := by
  cases identifier? with
  | none => rfl
  | some identifier =>
      obtain ⟨name, quoted⟩ := identifier
      cases quoted <;> rfl

theorem int?_of (n? : Option Nat) :
    place.int? (ofOption ofNat n?) = .ok (n?.map Nat.cast) := by
  cases n? <;> rfl

theorem tag_of [DecidableEq α] {vocabulary : Vocabulary α} (complete : vocabulary.Complete)
    (meaning : α) : place.tag vocabulary (ofWord vocabulary meaning) = .ok meaning := by
  rw [ofWord, tag, Place.meaning, complete]

theorem tag?_of [DecidableEq α] {vocabulary : Vocabulary α} (complete : vocabulary.Complete)
    (meaning? : Option α) :
    place.tag? vocabulary (ofOption (ofWord vocabulary) meaning?) = .ok meaning? := by
  cases meaning? with
  | none => rfl
  | some meaning =>
      rw [ofOption, ofWord, tag?, Place.meaning, complete]
      rfl

theorem existence_of (existence : ExistenceCheck) :
    place.existence (ofWord ExistenceCheck.vocabulary existence) = .ok existence := by
  cases existence <;> rfl

theorem node?_of {kind : NodeKind} (get? : Node → Option α) (wrap : α → Node)
    (unwraps : ∀ part, get? (wrap part) = some part) (part? : Option α) :
    place.node? kind get? (ofOption (.node ∘ wrap) part?) = .ok part? := by
  cases part? with
  | none => rfl
  | some part =>
      rw [ofOption, Function.comp_apply, node?, Place.node, unwraps]
      rfl

theorem value?_of (value? : Option Expr) :
    place.value? (ofOption (.node ∘ .expr) value?) = .ok value? := by
  cases value? <;> rfl

theorem action_of (action : ReferentialAction) : place.action (.int action.code) = .ok action := by
  cases action <;> rfl

end Place

theorem BinaryOp.complete_vocabulary : BinaryOp.vocabulary.Complete := by
  intro op
  cases op <;> rfl

theorem MatchType.complete_vocabulary : MatchType.vocabulary.Complete := by
  intro type
  cases type <;> rfl

theorem ConstraintType.complete_vocabulary : ConstraintType.vocabulary.Complete := by
  intro type
  cases type <;> rfl

theorem DropBehavior.complete_vocabulary : DropBehavior.vocabulary.Complete := by
  intro behavior
  cases behavior <;> rfl

theorem JoinType.complete_vocabulary : JoinType.vocabulary.Complete := by
  intro join
  cases join <;> rfl

theorem Production.lookup_tag (subKind : SubKind) :
    SubKind.tags.lookup subKind.tag = some subKind := by
  cases subKind <;> rfl

namespace DataType

/-- A data type is built from its keyword and its parameters. -/
theorem build_keyword {type : DataType} (rules : type.InRange) :
    build type.keyword (type.length?.map Nat.cast) (type.scale?.map Nat.cast) = .ok type := by
  cases type with
  | decimal precision scale => exact build_eq_ok.mpr (.decimal rules.1 rules.2.1 rules.2.2 rfl)
  | varchar length => exact build_eq_ok.mpr (.varchar rules.1 rules.2)
  | char length => exact build_eq_ok.mpr (.char rules.1 rules.2)
  | _ => rfl

end DataType

end Readers

end DdlTree
