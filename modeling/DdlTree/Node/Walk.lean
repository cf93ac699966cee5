import DdlTree.Node

/-! # Walks

The children of a node, in the order in which they are rendered, and walks over all that lies below
it. A walk keeps the nodes that are still to come on a stack: it yields the node on top and puts
the children of that node in its place.
-/

namespace DdlTree

def sizeOfName (name : Option TableName) : Nat :=
  name.toList.length

def sizeOfStorage (storage : Option StorageFormat) : Nat :=
  storage.toList.length

/-- How many nodes a list of parts is, by how many each part is. -/
def sizeOfAll {α : Type} (size : α → Nat) : List α → Nat
  | [] => 0
  | part :: rest => size part + sizeOfAll size rest

theorem sizeOfAll_append {α : Type} (size : α → Nat) (first second : List α) :
    sizeOfAll size (first ++ second) = sizeOfAll size first + sizeOfAll size second := by
  induction first with
  | nil => simp only [List.nil_append, sizeOfAll, Nat.zero_add]
  | cons part rest ih => simp only [List.cons_append, sizeOfAll, ih, Nat.add_assoc]

def Expr.size : Expr → Nat
  | .column table _ _ => 1 + sizeOfName table
  | .binary _ left right _ => 1 + left.size + right.size
  | .not operand _ => 1 + operand.size
  | .isNull operand _ _ => 1 + operand.size
  | _ => 1

def IndexColumn.size (column : IndexColumn) : Nat :=
  1 + sizeOfName column.table

def IndexColumnList.size (list : IndexColumnList) : Nat :=
  1 + sizeOfAll IndexColumn.size list.columns

def ColumnDefinition.size (column : ColumnDefinition) : Nat :=
  1 + sizeOfAll Expr.size column.defaultValue.toList

def ConstraintBody.size : ConstraintBody → Nat
  | .primaryKey _ => 1
  | .unique _ => 1
  | .check condition => condition.size
  | .foreignKey key => 2 + key.refColumns.toList.length
  | .drop _ => 0

def Constraint.size (constraint : Constraint) : Nat :=
  1 + sizeOfName constraint.name + constraint.body.size

def IndexDefinition.size (index : IndexDefinition) : Nat :=
  index.columns.size + sizeOfStorage index.storageFormat

def TableElement.size : TableElement → Nat
  | .column c => c.size
  | .constraint c => c.size
  | .index i => 1 + i.index.size

def AlterAction.size : AlterAction → Nat
  | .addConstraint constraint => constraint.size
  | .dropConstraint constraint => constraint.size
  | .addColumn column => column.size
  | .dropColumn .. => 0

def Statement.size : Statement → Nat
  | .createIndex create => 3 + create.index.size
  | .dropIndex _ => 2
  | .createTable create =>
      2 + sizeOfAll TableElement.size create.elements + sizeOfStorage create.storageFormat
  | .dropTable _ => 2
  | .alterTable alter => 2 + sizeOfAll AlterAction.size alter.actions

def Expr.children : Expr → List Node
  | .column table _ _ => table.toList.map .tableName
  | .binary _ left right _ => [.expr left, .expr right]
  | .not operand _ => [.expr operand]
  | .isNull operand _ _ => [.expr operand]
  | _ => []

/-- The children that the body of a constraint gives it. -/
def ConstraintBody.children : ConstraintBody → List Node
  | .primaryKey columns => [.columnList columns]
  | .unique columns => [.columnList columns]
  | .check condition => [.expr condition]
  | .foreignKey key =>
      .columnList key.columns :: .tableName key.refTable :: key.refColumns.toList.map .columnList
  | .drop _ => []

/-- The children that the definition of an index gives it. -/
def IndexDefinition.children (index : IndexDefinition) : List Node :=
  .indexColumnList index.columns :: index.storageFormat.toList.map .storageFormat

/-- The node that an element of a table is. -/
def TableElement.node : TableElement → Node
  | .column c => .columnDefinition c
  | .constraint c => .constraint c
  | .index i => .indexConstraint i

/-- The node of a change to a table. A dropped column is only a name. -/
def AlterAction.node? : AlterAction → Option Node
  | .addConstraint constraint => some (.constraint constraint)
  | .dropConstraint constraint => some (.constraint constraint)
  | .addColumn column => some (.columnDefinition column)
  | .dropColumn .. => none

def Statement.children : Statement → List Node
  | .createIndex create =>
      .tableName create.name :: .tableName create.table :: create.index.children
  | .dropIndex drop => [.tableName drop.name]
  | .createTable create =>
      .tableName create.name :: (create.elements.map TableElement.node
        ++ create.storageFormat.toList.map .storageFormat)
  | .dropTable drop => [.tableName drop.name]
  | .alterTable alter => .tableName alter.name :: alter.actions.filterMap AlterAction.node?

namespace Node

/-- How many nodes there are, from this one down. -/
def size : Node → Nat
  | .tableName _ => 1
  | .expr e => e.size
  | .columnList _ => 1
  | .indexColumn column => column.size
  | .indexColumnList columns => columns.size
  | .storageFormat _ => 1
  | .columnDefinition column => column.size
  | .constraint c => c.size
  | .indexConstraint index => 1 + index.index.size
  | .statement s => s.size

def children : Node → List Node
  | .tableName _ => []
  | .expr e => e.children
  | .columnList _ => []
  | .indexColumn column => column.table.toList.map .tableName
  | .indexColumnList columns => columns.columns.map .indexColumn
  | .storageFormat _ => []
  | .columnDefinition column => column.defaultValue.toList.map .expr
  | .constraint c => c.name.toList.map .tableName ++ c.body.children
  | .indexConstraint index => index.index.children
  | .statement s => s.children

end Node

/-- Parts that are one node each count as many nodes as their nodes do. -/
theorem sizeOfAll_map {α : Type} (node : α → Node) (size : α → Nat)
    (same : ∀ a, (node a).size = size a) (list : List α) :
    sizeOfAll Node.size (list.map node) = sizeOfAll size list := by
  induction list with
  | nil => rfl
  | cons head rest ih => simp only [List.map_cons, sizeOfAll, same, ih]

/-- Nodes without children count one each. -/
theorem sizeOfAll_leaves {α : Type} (node : α → Node) (leaf : ∀ a, (node a).size = 1)
    (list : List α) : sizeOfAll Node.size (list.map node) = list.length := by
  induction list with
  | nil => rfl
  | cons head rest ih => simp only [List.map_cons, sizeOfAll, leaf, ih, List.length_cons]; omega

theorem IndexDefinition.sizeOfAll_children (index : IndexDefinition) :
    sizeOfAll Node.size index.children = index.size := by
  simp only [children, size, sizeOfStorage, sizeOfAll, Node.size,
    sizeOfAll_leaves Node.storageFormat (fun _ => rfl)]

theorem ConstraintBody.sizeOfAll_children (body : ConstraintBody) :
    sizeOfAll Node.size body.children = body.size := by
  cases body with
  | foreignKey key =>
      simp only [children, size, sizeOfAll, Node.size,
        sizeOfAll_leaves Node.columnList (fun _ => rfl)]
      omega
  | check condition => simp only [children, size, sizeOfAll, Node.size, Nat.add_zero]
  | _ => rfl

theorem Expr.size_eq (expr : Expr) : expr.size = 1 + sizeOfAll Node.size expr.children := by
  cases expr with
  | column table name span =>
      simp only [children, size, sizeOfName, sizeOfAll_leaves Node.tableName (fun _ => rfl)]
  | binary op left right span => simp only [children, size, sizeOfAll, Node.size]; omega
  | _ => rfl

theorem AlterAction.sizeOfAll_nodes (actions : List AlterAction) :
    sizeOfAll Node.size (actions.filterMap AlterAction.node?)
      = sizeOfAll AlterAction.size actions := by
  induction actions with
  | nil => rfl
  | cons action rest ih =>
      cases action <;>
        simp only [List.filterMap_cons, node?, sizeOfAll, Node.size, size, ih, Nat.zero_add]

theorem TableElement.size_node (element : TableElement) : element.node.size = element.size := by
  cases element <;> rfl

theorem Statement.size_eq (statement : Statement) :
    statement.size = 1 + sizeOfAll Node.size statement.children := by
  cases statement with
  | createIndex create =>
      simp only [children, size, sizeOfAll, Node.size, IndexDefinition.sizeOfAll_children]
      omega
  | createTable create =>
      simp only [children, size, sizeOfAll, sizeOfAll_append, Node.size, sizeOfStorage,
        sizeOfAll_map _ _ TableElement.size_node,
        sizeOfAll_leaves Node.storageFormat (fun _ => rfl)]
      omega
  | alterTable alter =>
      simp only [children, size, sizeOfAll, Node.size, AlterAction.sizeOfAll_nodes]
      omega
  | _ => rfl

namespace Node

/-- A node counts itself and what lies below its children. -/
theorem size_eq (node : Node) : node.size = 1 + sizeOfAll size node.children := by
  cases node with
  | tableName | columnList | storageFormat => rfl
  | expr e => exact e.size_eq
  | indexColumn column =>
      simp only [children, size, IndexColumn.size, sizeOfName,
        sizeOfAll_leaves Node.tableName (fun _ => rfl)]
  | indexColumnList columns =>
      simp only [children, size, IndexColumnList.size,
        sizeOfAll_map Node.indexColumn IndexColumn.size (fun _ => rfl)]
  | columnDefinition column =>
      simp only [children, size, ColumnDefinition.size,
        sizeOfAll_map Node.expr Expr.size (fun _ => rfl)]
  | constraint c =>
      simp only [children, size, Constraint.size, sizeOfName, sizeOfAll_append,
        sizeOfAll_leaves Node.tableName (fun _ => rfl), ConstraintBody.sizeOfAll_children]
      omega
  | indexConstraint index =>
      simp only [children, size, IndexDefinition.sizeOfAll_children]
  | statement s => exact s.size_eq

theorem size_lt_of_mem_children {child node : Node} (mem : child ∈ node.children) :
    child.size < node.size := by
  obtain ⟨before, after, split⟩ := List.append_of_mem mem
  have whole := node.size_eq
  rw [split, sizeOfAll_append, sizeOfAll] at whole
  omega

/-- A node and all that lies below it, each node before its children. -/
def preorder (node : Node) : List Node :=
  node :: node.children.attach.flatMap fun ⟨child, _⟩ => child.preorder
termination_by node.size
decreasing_by exact size_lt_of_mem_children ‹_›

/-- How far the deepest node lies below this one. -/
def depth (node : Node) : Nat :=
  (node.children.attach.map fun ⟨child, _⟩ => child.depth + 1).foldr max 0
termination_by node.size
decreasing_by exact size_lt_of_mem_children ‹_›

end Node

/-- A walk under way: the nodes that are still to come, the next one first. -/
structure Walk where
  stack : List Node
  deriving Repr, DecidableEq

namespace Walk

/-- The walk over a node and all that lies below it. -/
def start (root : Node) : Walk := ⟨[root]⟩

/-- The next node and the walk after it. -/
def next? (walk : Walk) : Option (Node × Walk) :=
  match walk.stack with
  | [] => none
  | node :: rest => some (node, ⟨node.children ++ rest⟩)

/-- How many nodes are still to come. -/
def remaining (walk : Walk) : Nat :=
  sizeOfAll Node.size walk.stack

/-- A step takes one node off the walk. -/
theorem remaining_next? {walk after : Walk} {node : Node}
    (step : walk.next? = some (node, after)) : walk.remaining = after.remaining + 1 := by
  obtain ⟨stack⟩ := walk
  cases stack with
  | nil => simp [next?] at step
  | cons top rest =>
      simp only [next?, Option.some.injEq, Prod.mk.injEq] at step
      obtain ⟨rfl, rfl⟩ := step
      simp only [remaining, sizeOfAll, sizeOfAll_append, top.size_eq]
      omega

/-- The nodes that are still to come, in order. -/
def toList (walk : Walk) : List Node :=
  match _step : walk.next? with
  | none => []
  | some (node, after) => node :: after.toList
termination_by walk.remaining
decreasing_by have := remaining_next? _step; omega

end Walk

namespace Node

/-- The walk over a node, as a list. -/
def dfs (node : Node) : List Node :=
  (Walk.start node).toList

/-- The first node of the walk with a property. -/
def find? (node : Node) (wanted : Node → Bool) : Option Node :=
  node.dfs.find? wanted

/-- The nodes of the walk with a property. -/
def findAll (node : Node) (wanted : Node → Bool) : List Node :=
  node.dfs.filter wanted

/-- Whether a node of the walk has a property. -/
def contains (node : Node) (wanted : Node → Bool) : Bool :=
  node.dfs.any wanted

/-- How many nodes of the walk have a property. -/
def count (node : Node) (wanted : Node → Bool) : Nat :=
  node.dfs.countP wanted

end Node

end DdlTree
