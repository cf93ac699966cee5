import DdlTree.Node

/-! # Arguments

The untyped values that a reduced grammar production hands over, and the readers that take a typed
value out of one. A reader knows the place where its argument stands and reports it when the
argument does not have the shape that the place asks for.
-/

namespace DdlTree

/-- An untyped value. -/
inductive Argument where
  | null
  | bool (value : Bool)
  | int (value : Int)
  | text (value : String)
  /-- A word of some enumeration. -/
  | tag (word : String)
  /-- A delimited identifier, without its marks. -/
  | delimited (name : String)
  | node (node : Node)
  | nodes (nodes : List Node)
  | list (items : List Argument)
  | options (bag : Options)
  deriving Repr

/-- What an argument is, in an error. -/
def Argument.phrase : Argument → String
  | .null => "null"
  | .bool _ => "bool"
  | .int _ => "int"
  | .text _ => "str"
  | .tag word => s!"tag {word}"
  | .delimited _ => "delimited identifier"
  | .node n => s!"{n.kind.name} node"
  | .nodes _ => "node list"
  | .list _ => "list"
  | .options _ => "options"

/-- A place in the argument list of a node kind. Positions start at 1. -/
structure Place where
  kind : NodeKind
  position : Nat
  field : String
  deriving Repr, DecidableEq

namespace Place

/-- Refuse an argument that is not of the expected shape. -/
def refuse {α : Type} (place : Place) (expected : Shape) (nullable : Bool) (found : Argument) :
    Except BuildError α :=
  .error (.malformed place.kind
    (.argumentShape place.position place.field expected nullable found.phrase))

def bool (place : Place) : Argument → Except BuildError Bool
  | .bool value => .ok value
  | other => place.refuse .bool false other

def int (place : Place) : Argument → Except BuildError Int
  | .int value => .ok value
  | other => place.refuse .int false other

def int? (place : Place) : Argument → Except BuildError (Option Int)
  | .null => .ok none
  | .int value => .ok (some value)
  | other => place.refuse .int true other

def text (place : Place) : Argument → Except BuildError String
  | .text value => .ok value
  | other => place.refuse .text false other

def textOrInt (place : Place) : Argument → Except BuildError String
  | .text value => .ok value
  | .int value => .ok (toString value)
  | other => place.refuse .textOrInt false other

def identifier (place : Place) : Argument → Except BuildError Identifier
  | .text name => .ok (.regular name)
  | .delimited name => .ok (.delimited name)
  | other => place.refuse .identifier false other

def identifier? (place : Place) : Argument → Except BuildError (Option Identifier)
  | .null => .ok none
  | .text name => .ok (some (.regular name))
  | .delimited name => .ok (some (.delimited name))
  | other => place.refuse .identifier true other

def word (place : Place) : Argument → Except BuildError String
  | .tag word => .ok word
  | other => place.refuse .tag false other

/-- The meaning of a word, or the report of the field where it stands. -/
def meaning {α : Type} (place : Place) (vocabulary : Vocabulary α) (word : String) :
    Except BuildError α :=
  match vocabulary.read word with
  | .ok meaning => .ok meaning
  | .error unknown => .error (.malformed place.kind (.argumentTag place.field unknown))

def tag {α : Type} (place : Place) (vocabulary : Vocabulary α) : Argument → Except BuildError α
  | .tag word => place.meaning vocabulary word
  | other => place.refuse .tag false other

def tag? {α : Type} (place : Place) (vocabulary : Vocabulary α) :
    Argument → Except BuildError (Option α)
  | .null => .ok none
  | .tag word => (place.meaning vocabulary word).map some
  | other => place.refuse .tag true other

/-- Read an existence check; null asks for none. -/
def existence (place : Place) (argument : Argument) : Except BuildError ExistenceCheck :=
  (place.tag? ExistenceCheck.vocabulary argument).map (·.getD .noCondition)

def node {α : Type} (place : Place) (kind : NodeKind) (get? : Node → Option α) :
    Argument → Except BuildError α
  | .node node =>
      match get? node with
      | some value => .ok value
      | none => place.refuse (.node kind) false (.node node)
  | other => place.refuse (.node kind) false other

def node? {α : Type} (place : Place) (kind : NodeKind) (get? : Node → Option α) :
    Argument → Except BuildError (Option α)
  | .null => .ok none
  | .node node => (place.node kind get? (.node node)).map some
  | other => place.refuse (.node kind) true other

def value (place : Place) : Argument → Except BuildError Expr
  | .node (.expr value) => .ok value
  | other => place.refuse .value false other

def value? (place : Place) : Argument → Except BuildError (Option Expr)
  | .null => .ok none
  | .node (.expr value) => .ok (some value)
  | other => place.refuse .value true other

def nodes (place : Place) : Argument → Except BuildError (List Node)
  | .nodes nodes => .ok nodes
  | other => place.refuse .nodes false other

/-- Read options; null stands for none. -/
def options (place : Place) : Argument → Except BuildError Options
  | .null => .ok .empty
  | .options bag => .ok bag
  | other => place.refuse .options true other

/-- Read the code of a referential action. -/
def action (place : Place) (argument : Argument) : Except BuildError ReferentialAction := do
  let code ← place.int argument
  match ReferentialAction.ofCode? code with
  | some action => return action
  | none => .error (.malformed place.kind (.argumentCode place.field code))

end Place

end DdlTree
