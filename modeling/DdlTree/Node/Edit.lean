import DdlTree.Node

/-! # Edits

Changes to a node in place. An edit reaches the node itself and not the nodes below it, and checks
only what it changes: a bag of options takes any key, so an edited node can hold keys that no node
could have been built from.
-/

namespace DdlTree

inductive Edit where
  | setSpan (span : Span)
  /-- Make an index unique or not. -/
  | setUnique (unique : Bool)
  /-- Name the index of a statement that creates one. -/
  | setIndexName (name : TableName)
  /-- Give a column of an index, or of a list of index columns, a direction. The columns of an index
      are reached for this alone: to put another list in their place is not an edit. -/
  | setAscending (position : Nat) (ascending : Bool)
  /-- Name a table that is created, or a constraint; only a constraint can lose its name. -/
  | setName (name : Option TableName)
  | setNotNull (notNull : Bool)
  /-- Rename a column of a column list. -/
  | rename (position : Nat) (column : Identifier)
  | insertOption (key value : String)
  | eraseOption (key : String)
  deriving Repr, DecidableEq

/-- Why a node was not edited. -/
inductive EditError where
  /-- The node has nothing that the edit could change. -/
  | notApplicable
  /-- The edited node would break a rule. -/
  | refused (error : BuildError)
  deriving Repr, DecidableEq

namespace Node

/-- The bag of options that a node holds itself. -/
def options? : Node → Option Options
  | .statement (.createIndex create) => some create.options
  | .storageFormat storage => some storage.options
  | _ => none

/-- The node with another bag of options, if it holds one. -/
def withOptions (options : Options) : Node → Node
  | .statement (.createIndex create) => .statement (.createIndex { create with options })
  | .storageFormat storage => .storageFormat { storage with options }
  | other => other

/-- Change the bag of options that a node holds itself. -/
def editOptions (node : Node) (change : Options → Options) : Except EditError Node :=
  match node.options? with
  | some options => .ok (node.withOptions (change options))
  | none => .error .notApplicable

end Node

namespace Edit

/-- Take over the outcome of a change that keeps the rules of its own node. -/
def checked {α : Type} (node : α → Node) (result : Except BuildError α) : Except EditError Node :=
  match result with
  | .ok value => .ok (node value)
  | .error error => .error (.refused error)

def apply : Edit → Node → Except EditError Node
  | .setSpan span, node => .ok (node.withSpan span)
  | .setUnique unique, .statement (.createIndex create) =>
      .ok (.statement (.createIndex (create.setUnique unique)))
  | .setIndexName name, .statement (.createIndex create) =>
      .ok (.statement (.createIndex (create.setName name)))
  | .setAscending position ascending, .statement (.createIndex create) =>
      checked (.statement ∘ .createIndex) (create.setAscending position ascending)
  | .setAscending position ascending, .indexColumnList columns =>
      checked .indexColumnList (columns.setAscending position ascending)
  | .setName (some name), .statement (.createTable create) =>
      .ok (.statement (.createTable (create.setName name)))
  | .setName name, .constraint constraint => checked .constraint (constraint.setName name)
  | .setNotNull notNull, .columnDefinition column =>
      .ok (.columnDefinition (column.setNotNull notNull))
  | .rename position column, .columnList columns =>
      checked .columnList (columns.rename position column)
  | .insertOption key value, node => node.editOptions fun bag => (bag.insert key value).2
  | .eraseOption key, node => node.editOptions fun bag => (bag.erase key).2
  | _, _ => .error .notApplicable

end Edit

end DdlTree
