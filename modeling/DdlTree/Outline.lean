import DdlTree.Node.Walk
import DdlTree.Text

/-! # Outlines

A tree as indented text: one line for each node, with its kind and its own fields, and the lines of
its children below it, two spaces further in.
-/

namespace DdlTree

/-- An optional name, shown with its wrapper. -/
def shownOption : Option String → String
  | some name => s!"Some({name})"
  | none => "None"

/-- Options in braces, in the order of their keys. -/
def Options.shown (bag : Options) : String :=
  "\x7b" ++ String.intercalate ", " (bag.entries.map fun entry => entry.1 ++ ": " ++ entry.2)
    ++ "\x7d"

/-- The field that shows a bag, unless the bag is empty. -/
def Options.field (bag : Options) : String :=
  if bag.isEmpty then "" else " options=" ++ bag.shown

/-- The field that shows a join type, if there is one. -/
def JoinType.field : Option JoinType → String
  | some join => " join=" ++ join.tag
  | none => ""

/-- A column that an alteration drops, with its existence check if it has one. -/
def AlterAction.droppedColumn? : AlterAction → Option String
  | .dropColumn column .noCondition => some column.text
  | .dropColumn column existence => some s!"{column.text} ({existence.name})"
  | _ => none

def Expr.fields : Expr → String
  | .column _ name _ => s!" column={name.text}"
  | .number literal _ => s!" value={literal}"
  | .string value _ => s!" value={Text.escaped value}"
  | .boolean value _ => s!" value={value}"
  | .null _ => ""
  | .binary op _ _ _ => s!" op={op.symbol}"
  | .not _ _ => ""
  | .isNull _ negated _ => s!" negated={negated}"

def ForeignKey.fields (key : ForeignKey) : String :=
  s!" delete={key.deleteRule.name} update={key.updateRule.name}"
    ++ " match=" ++ shownOption (key.matchType.map MatchType.name) ++ s!" grouping={key.grouping}"
    ++ s!" deferrable={key.deferrable} initially_deferred={key.initiallyDeferred}"

def ConstraintDrop.fields (drop : ConstraintDrop) : String :=
  " drop behavior=" ++ shownOption (drop.behavior.map DropBehavior.name)
    ++ s!" existence={drop.existence.name} grouping={drop.grouping}"

def Constraint.fields (constraint : Constraint) : String :=
  s!" type={constraint.constraintType.tag}" ++
    match constraint.body with
    | .foreignKey key => key.fields
    | .drop drop => drop.fields
    | _ => ""

def Statement.fields : Statement → String
  | .createIndex create =>
      s!" unique={create.index.unique} existence={create.existence.name}"
        ++ JoinType.field create.index.joinType ++ create.options.field
  | .dropIndex drop => s!" existence={drop.existence.name}"
  | .createTable create => s!" existence={create.existence.name}"
  | .dropTable drop =>
      s!" existence={drop.existence.name}" ++ " behavior="
        ++ shownOption (drop.behavior.map DropBehavior.name)
  | .alterTable alter =>
      match alter.actions.filterMap AlterAction.droppedColumn? with
      | [] => ""
      | dropped => " drop_columns=[" ++ String.intercalate ", " dropped ++ "]"

namespace Node

def fields : Node → String
  | .tableName name => s!" name={name.text}"
  | .expr e => e.fields
  | .columnList list =>
      " columns=[" ++ String.intercalate ", " (list.columns.map (·.text)) ++ "]"
  | .indexColumn column => s!" column={column.column.text} ascending={column.ascending}"
  | .indexColumnList _ => ""
  | .storageFormat storage => s!" format={storage.format.text}" ++ storage.options.field
  | .columnDefinition column =>
      s!" name={column.name.text} type={column.dataType.text} not_null={column.notNull}"
  | .constraint c => c.fields
  | .indexConstraint index =>
      s!" name={index.name.text} unique={index.index.unique}" ++ JoinType.field index.index.joinType
  | .statement s => s.fields

/-- A node and all that lies below it, each with how far it lies below the top. -/
def leveled (level : Nat) (node : Node) : List (Nat × Node) :=
  (level, node) :: node.children.attach.flatMap fun ⟨child, _⟩ => child.leveled (level + 1)
termination_by node.size
decreasing_by exact size_lt_of_mem_children ‹_›

/-- The line of a node at a level. -/
def outlineLine (level : Nat) (node : Node) : String :=
  String.ofList (List.replicate (2 * level) ' ') ++ node.kind.name ++ node.fields ++ "\n"

def outline (node : Node) : String :=
  String.join ((node.leveled 0).map fun entry => outlineLine entry.1 entry.2)

end Node

end DdlTree
