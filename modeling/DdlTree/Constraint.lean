import DdlTree.Existence
import DdlTree.Expr
import DdlTree.Session

/-! # Constraints

A constraint node defines a key, a check or a foreign key, or drops a constraint that exists. Which
of these it does is fixed once it is built, and a field that does not belong to it has no value.
-/

namespace DdlTree

/-- The sort of constraint that a node defines or drops. -/
inductive ConstraintType where
  | primaryKey
  | unique
  | check
  | foreignKey
  /-- A drop by name that does not say which sort it drops. -/
  | unspecified
  deriving Repr, DecidableEq

namespace ConstraintType

def all : List ConstraintType :=
  [.primaryKey, .unique, .check, .foreignKey, .unspecified]

def name : ConstraintType → String
  | .primaryKey => "PrimaryKey"
  | .unique => "Unique"
  | .check => "Check"
  | .foreignKey => "ForeignKey"
  | .unspecified => "Unspecified"

def tag : ConstraintType → String
  | .primaryKey => "PRIMARY_KEY"
  | .unique => "UNIQUE"
  | .check => "CHECK"
  | .foreignKey => "FOREIGN_KEY"
  | .unspecified => "UNSPECIFIED"

def keyword : ConstraintType → String
  | .primaryKey => "PRIMARY KEY"
  | .unique => "UNIQUE"
  | .check => "CHECK"
  | .foreignKey => "FOREIGN KEY"
  | .unspecified => "CONSTRAINT"

def vocabulary : Vocabulary ConstraintType where
  noun := "constraint type"
  words := all.map fun type => (type.tag, type)

end ConstraintType

/-- What happens to a row when the row that it refers to goes or changes. -/
inductive ReferentialAction where
  | cascade
  | restrict
  | noAction
  | setNull
  | setDefault
  deriving Repr, DecidableEq

namespace ReferentialAction

/-- Every action, in the order of the codes. -/
def all : List ReferentialAction :=
  [.cascade, .restrict, .noAction, .setNull, .setDefault]

def code : ReferentialAction → Int
  | .cascade => 0
  | .restrict => 1
  | .noAction => 2
  | .setNull => 3
  | .setDefault => 4

def ofCode? (code : Int) : Option ReferentialAction :=
  all.find? fun action => action.code == code

def name : ReferentialAction → String
  | .cascade => "Cascade"
  | .restrict => "Restrict"
  | .noAction => "NoAction"
  | .setNull => "SetNull"
  | .setDefault => "SetDefault"

def keyword : ReferentialAction → String
  | .cascade => "CASCADE"
  | .restrict => "RESTRICT"
  | .noAction => "NO ACTION"
  | .setNull => "SET NULL"
  | .setDefault => "SET DEFAULT"

end ReferentialAction

/-- How the columns of a foreign key match when some are null. -/
inductive MatchType where
  | simple
  | full
  | partly
  deriving Repr, DecidableEq

namespace MatchType

def name : MatchType → String
  | .simple => "Simple"
  | .full => "Full"
  | .partly => "Partial"

/-- The word of a match type in a statement. -/
def keyword : MatchType → String
  | .simple => "SIMPLE"
  | .full => "FULL"
  | .partly => "PARTIAL"

def vocabulary : Vocabulary MatchType where
  noun := "match type"
  words := [("SIMPLE", .simple), ("FULL", .full), ("PARTIAL", .partly)]

end MatchType

/-- The parts of a foreign key. -/
structure ForeignKey where
  columns : ColumnList
  refTable : TableName
  /-- The columns referred to, or `none` for the primary key. -/
  refColumns : Option ColumnList := none
  deleteRule : ReferentialAction := .noAction
  updateRule : ReferentialAction := .noAction
  matchType : Option MatchType := none
  /-- Whether the key makes its table a child in a table group. -/
  grouping : Bool := false
  deferrable : Bool := false
  initiallyDeferred : Bool := false
  deriving Repr, DecidableEq

/-- The parts of a drop. -/
structure ConstraintDrop where
  constraintType : ConstraintType
  behavior : Option DropBehavior := none
  existence : ExistenceCheck := .noCondition
  grouping : Bool := false
  deriving Repr, DecidableEq

/-- What a constraint node defines or drops. -/
inductive ConstraintBody where
  | primaryKey (columns : ColumnList)
  | unique (columns : ColumnList)
  | check (condition : Expr)
  | foreignKey (key : ForeignKey)
  | drop (drop : ConstraintDrop)
  deriving Repr, DecidableEq

/-- A definition or a drop of a constraint, with its name if it has one. -/
structure Constraint where
  name : Option TableName
  body : ConstraintBody
  span : Span := {}
  deriving Repr, DecidableEq

/-- A field that only some constraints have. -/
inductive ConstraintField where
  | existenceCheck
  | dropBehavior
  | columns
  | checkCondition
  | foreignKeyDefinition
  | refTableName
  | refColumns
  | deleteRule
  | updateRule
  | matchType
  | deferrable
  | initiallyDeferred
  | grouping
  deriving Repr, DecidableEq

/-- The name by which a field is reported. -/
def ConstraintField.name : ConstraintField → String
  | .existenceCheck => "existence_check"
  | .dropBehavior => "drop_behavior"
  | .columns => "columns"
  | .checkCondition => "check_condition"
  | .foreignKeyDefinition => "foreign_key_definition"
  | .refTableName => "ref_table_name"
  | .refColumns => "ref_columns"
  | .deleteRule => "delete_rule"
  | .updateRule => "update_rule"
  | .matchType => "match_type"
  | .deferrable => "deferrable"
  | .initiallyDeferred => "initially_deferred"
  | .grouping => "grouping"

/-- A field that the constraint at hand does not have. -/
structure FieldError where
  field : ConstraintField
  deriving Repr, DecidableEq

namespace FieldError

/-- The kind of node that the error is about. -/
def kind (_ : FieldError) : NodeKind :=
  .constraintDefinition

/-- The report of a field without a value. -/
def message (error : FieldError) : String :=
  s!"Field {error.field.name} is not applicable to this {error.kind.name}"

end FieldError

/-- A foreign key keeps to the extensions of the session, is deferred only if it is deferrable, and
    refers to as many columns as it has. -/
def ForeignKey.check (session : Session) (key : ForeignKey) : Except BuildError Unit := do
  session.requireWhen key.grouping .tableGrouping
  session.requireWhen key.deferrable .deferrableConstraints
  if key.initiallyDeferred && !key.deferrable then
    .error (.malformed .constraintDefinition .deferredNotDeferrable)
  if let some referenced := key.refColumns then
    if referenced.columns.length != key.columns.columns.length then
      .error (.malformed .constraintDefinition
        (.columnCountMismatch key.columns.columns.length referenced.columns.length))

/-- A drop never asks for its constraint to be missing, names it unless it is the primary key, and
    drops nothing but a foreign key as grouping. -/
def ConstraintDrop.check (session : Session) (name : Option TableName) (drop : ConstraintDrop) :
    Except BuildError Unit := do
  drop.existence.forDrop .constraintDefinition
  if name.isNone && drop.constraintType != .primaryKey then
    .error (.malformed .constraintDefinition (.unnamedDrop drop.constraintType.tag))
  if drop.grouping then
    if drop.constraintType != .foreignKey then
      .error (.malformed .constraintDefinition .groupingDropOfOther)
    session.require .tableGrouping

namespace Constraint

/-- A constraint, if its body keeps the rules. -/
def build (session : Session) (name : Option TableName) (body : ConstraintBody) :
    Except BuildError Constraint := do
  match body with
  | .foreignKey key => key.check session
  | .drop drop => drop.check session name
  | _ => pure ()
  return { name, body }

def isDrop (constraint : Constraint) : Bool :=
  match constraint.body with
  | .drop _ => true
  | _ => false

/-- The sort of constraint that is defined or dropped. -/
def constraintType (constraint : Constraint) : ConstraintType :=
  match constraint.body with
  | .primaryKey _ => .primaryKey
  | .unique _ => .unique
  | .check _ => .check
  | .foreignKey _ => .foreignKey
  | .drop drop => drop.constraintType

def ofDrop {α : Type} (constraint : Constraint) (field : ConstraintField)
    (get : ConstraintDrop → α) : Except FieldError α :=
  match constraint.body with
  | .drop drop => .ok (get drop)
  | _ => .error ⟨field⟩

def ofForeignKey {α : Type} (constraint : Constraint) (field : ConstraintField)
    (get : ForeignKey → α) : Except FieldError α :=
  match constraint.body with
  | .foreignKey key => .ok (get key)
  | _ => .error ⟨field⟩

def existenceCheck (constraint : Constraint) : Except FieldError ExistenceCheck :=
  constraint.ofDrop .existenceCheck (·.existence)

def dropBehavior (constraint : Constraint) : Except FieldError (Option DropBehavior) :=
  constraint.ofDrop .dropBehavior (·.behavior)

def columns (constraint : Constraint) : Except FieldError ColumnList :=
  match constraint.body with
  | .primaryKey columns => .ok columns
  | .unique columns => .ok columns
  | .foreignKey key => .ok key.columns
  | _ => .error ⟨.columns⟩

def checkCondition (constraint : Constraint) : Except FieldError Expr :=
  match constraint.body with
  | .check condition => .ok condition
  | _ => .error ⟨.checkCondition⟩

/-- The parts of a foreign key. -/
def foreignKey (constraint : Constraint) : Except FieldError ForeignKey :=
  constraint.ofForeignKey .foreignKeyDefinition id

def refTable (constraint : Constraint) : Except FieldError TableName :=
  constraint.ofForeignKey .refTableName (·.refTable)

def refColumns (constraint : Constraint) : Except FieldError (Option ColumnList) :=
  constraint.ofForeignKey .refColumns (·.refColumns)

def deleteRule (constraint : Constraint) : Except FieldError ReferentialAction :=
  constraint.ofForeignKey .deleteRule (·.deleteRule)

def updateRule (constraint : Constraint) : Except FieldError ReferentialAction :=
  constraint.ofForeignKey .updateRule (·.updateRule)

def matchType (constraint : Constraint) : Except FieldError (Option MatchType) :=
  constraint.ofForeignKey .matchType (·.matchType)

def isDeferrable (constraint : Constraint) : Except FieldError Bool :=
  constraint.ofForeignKey .deferrable (·.deferrable)

def isInitiallyDeferred (constraint : Constraint) : Except FieldError Bool :=
  constraint.ofForeignKey .initiallyDeferred (·.initiallyDeferred)

/-- Whether a foreign key, or the drop of one, is a grouping one. -/
def isGrouping (constraint : Constraint) : Except FieldError Bool :=
  match constraint.body with
  | .foreignKey key => .ok key.grouping
  | .drop drop =>
      if drop.constraintType = .foreignKey then .ok drop.grouping else .error ⟨.grouping⟩
  | _ => .error ⟨.grouping⟩

/-- Name the constraint anew. A drop keeps a name unless it drops the primary key. -/
def setName (constraint : Constraint) (name : Option TableName) : Except BuildError Constraint :=
  if name.isNone && constraint.isDrop && constraint.constraintType != .primaryKey then
    .error (.malformed .constraintDefinition .dropMustStayNamed)
  else .ok { constraint with name }

end Constraint

end DdlTree
