import DdlTree.Node.Production

/-! # What productions take

The schemas of productions: what each argument of a node is called, what shape it has, and whether
it may be null. An argument that is not of the shape that its slot asks for is a misfit, whatever
else is wrong with the arguments.
-/

namespace DdlTree

/-- What one argument of a production is to be. -/
structure Slot where
  field : String
  shape : Shape
  nullable : Bool := false
  /-- The kind of every node of a list, if the list is of nodes of one kind. -/
  each : Option NodeKind := none
  deriving Repr, DecidableEq

/-- Whether an argument is of a shape, whatever it holds. -/
def Shape.admits : Shape → Argument → Bool
  | .bool, .bool _ => true
  | .int, .int _ => true
  | .text, .text _ => true
  | .textOrInt, .text _ => true
  | .textOrInt, .int _ => true
  | .identifier, .text _ => true
  | .identifier, .delimited _ => true
  | .tag, .tag _ => true
  | .node kind, .node part => part.kind == kind
  | .value, .node part => part.expr?.isSome
  | .nodes, .nodes _ => true
  | .list, .nodes _ => true
  | .list, .list _ => true
  | .options, .options _ => true
  | _, _ => false

/-- An argument that has to be there. -/
def Slot.required (field : String) (shape : Shape) : Slot := { field, shape }

/-- An argument that may be null. -/
def Slot.optional (field : String) (shape : Shape) : Slot := { field, shape, nullable := true }

/-- Whether an argument is of the shape that a slot asks for. -/
def Slot.admits (slot : Slot) : Argument → Bool
  | .null => slot.nullable
  | .nodes nodes =>
      slot.shape.admits (.nodes nodes) &&
        slot.each.all fun kind => nodes.all fun node => node.kind == kind
  | argument => slot.shape.admits argument

/-- The first argument that its slot does not admit: its position, counted from `position`, and its
    field. -/
def misfit? (position : Nat) : List Slot → List Argument → Option (Nat × String)
  | slot :: slots, argument :: arguments =>
      if slot.admits argument then misfit? (position + 1) slots arguments
      else some (position, slot.field)
  | _, _ => none

/-- The slots of a production, in the order of its arguments. A constraint has further ones, which
    its first argument decides on. -/
def NodeKind.slots : NodeKind → List Slot
  | .tableName => [.optional "schema" .identifier, .required "name" .identifier]
  | .columnReference => [.optional "table" (.node .tableName), .required "column" .identifier]
  | .numericConstant => [.required "value" .textOrInt]
  | .stringConstant => [.required "value" .text]
  | .booleanConstant => [.required "value" .bool]
  | .nullConstant => []
  | .binaryOperator =>
      [.required "operator" .tag, .required "left" .value, .required "right" .value]
  | .not => [.required "operand" .value]
  | .isNull => [.required "operand" .value, .required "negated" .bool]
  | .columnList => [.required "columns" .nodes]
  | .indexColumn =>
      [.optional "table" (.node .tableName), .required "column" .identifier,
       .required "ascending" .bool]
  | .indexColumnList => [{ field := "columns", shape := .nodes, each := some .indexColumn }]
  | .storageFormat => [.required "format" .identifier, .optional "options" .options]
  | .columnDefinition =>
      [.required "name" .identifier, .required "data_type" .tag, .optional "length" .int,
       .optional "scale" .int, .required "not_null" .bool, .optional "default" .value]
  | .constraintDefinition => [.required "sub_kind" .tag]
  | .indexConstraint =>
      [.required "name" .identifier, .required "unique" .bool,
       .required "columns" (.node .indexColumnList), .optional "join_type" .tag,
       .optional "storage_format" (.node .storageFormat)]
  | .createIndex =>
      [.required "unique" .bool, .required "index_name" (.node .tableName),
       .required "table_name" (.node .tableName), .required "columns" (.node .indexColumnList),
       .optional "join_type" .tag, .optional "options" .options, .optional "existence_check" .tag,
       .optional "storage_format" (.node .storageFormat)]
  | .dropIndex =>
      [.required "index_name" (.node .tableName), .optional "existence_check" .tag]
  | .createTable =>
      [.required "name" (.node .tableName), .optional "existence_check" .tag,
       .required "elements" .nodes, .optional "storage_format" (.node .storageFormat)]
  | .dropTable =>
      [.required "name" (.node .tableName), .optional "existence_check" .tag,
       .optional "behavior" .tag]
  | .alterTable => [.required "name" (.node .tableName), .required "actions" .list]

namespace Production

/-- The slots of the arguments behind the one that asks for a constraint. -/
def SubKind.slots : SubKind → List Slot
  | .primaryKey | .unique =>
      [.optional "name" (.node .tableName), .required "columns" (.node .columnList)]
  | .check => [.optional "name" (.node .tableName), .required "condition" .value]
  | .foreignKey =>
      [.optional "name" (.node .tableName), .required "ref_table" (.node .tableName),
       .required "columns" (.node .columnList), .optional "ref_columns" (.node .columnList),
       .required "delete_rule" .int, .required "update_rule" .int, .optional "match_type" .tag,
       .required "grouping" .bool, .required "deferrable" .bool,
       .required "initially_deferred" .bool]
  | .drop =>
      [.optional "name" (.node .tableName), .required "constraint_type" .tag,
       .optional "behavior" .tag, .required "grouping" .bool, .optional "existence_check" .tag]

/-- The slots of a pair that drops a column under an existence check. -/
def dropSlots : List Slot :=
  [.optional "existence_check" .tag, .required "column" .value]

/-- The slots of a list of arguments. -/
def slots : NodeKind → List Argument → List Slot
  | .constraintDefinition, .tag tag :: _ =>
      NodeKind.constraintDefinition.slots ++ (SubKind.tags.lookup tag).elim [] SubKind.slots
  | kind, _ => kind.slots

end Production

end DdlTree
