import DdlTree.Node.Edit
import DdlTree.Node.Production
import DdlTree.Node.Walk

/-! # Reachable nodes

The nodes that a program can hold. Each is built by one call of a constructor from nodes that are
reachable themselves, comes out of a production whose arguments hold reachable nodes, or is an edit
of a reachable node. Sessions may change from one call to the next, and an edited node can become
part of another one.
-/

namespace DdlTree

/-- A data type that the functions for data types give out: by its tag and parameters, or as a
    decimal of two numbers of 32 bits. -/
inductive DataType.Obtained : DataType → Prop where
  | ofParts {tag length scale type} (built : DataType.build tag length scale = .ok type) :
    Obtained type
  | ofDecimal {precision scale type} (precisionFits : precision < UInt32.size)
    (scaleFits : scale < UInt32.size) (built : DataType.buildDecimal precision scale = .ok type) :
    Obtained type

/-- The result of one call of a constructor under a session. Column definitions may be given the
    data types that `types` allows. -/
inductive Constructed (types : DataType → Prop) (session : Session) : Node → Prop where
  | tableName {schema name table} (built : TableName.build schema name = .ok table) :
    Constructed types session (.tableName table)
  | dottedName {text table} (built : TableName.parse text = .ok table) :
    Constructed types session (.tableName table)
  | column {table name expr} (built : Expr.buildColumn table name = .ok expr) :
    Constructed types session (.expr expr)
  | number {text expr} (built : Expr.buildNumber text = .ok expr) :
    Constructed types session (.expr expr)
  | string (value) : Constructed types session (.expr (.string value {}))
  | boolean (value) : Constructed types session (.expr (.boolean value {}))
  | null : Constructed types session (.expr (.null {}))
  | binary (op left right) : Constructed types session (.expr (.binary op left right {}))
  | not (operand) : Constructed types session (.expr (.not operand {}))
  | isNull (operand negated) : Constructed types session (.expr (.isNull operand negated {}))
  | columnList {columns list} (built : ColumnList.build columns = .ok list) :
    Constructed types session (.columnList list)
  | indexColumn {table name ascending column}
    (built : IndexColumn.build table name ascending = .ok column) :
    Constructed types session (.indexColumn column)
  | indexColumnList {columns list} (built : IndexColumnList.build columns = .ok list) :
    Constructed types session (.indexColumnList list)
  | storageFormat {format options storage}
    (built : StorageFormat.build session format options = .ok storage) :
    Constructed types session (.storageFormat storage)
  | columnDefinition {name type notNull value column} (allowed : types type)
    (built : ColumnDefinition.build name type notNull value = .ok column) :
    Constructed types session (.columnDefinition column)
  | constraint {name body constraint}
    (built : Constraint.build session name body = .ok constraint) :
    Constructed types session (.constraint constraint)
  | indexConstraint {name index constraint}
    (built : IndexConstraint.build session name index = .ok constraint) :
    Constructed types session (.indexConstraint constraint)
  | createIndex {parts create} (built : CreateIndex.build session parts = .ok create) :
    Constructed types session (.statement (.createIndex create))
  | dropIndex {name existence drop} (built : DropIndex.build name existence = .ok drop) :
    Constructed types session (.statement (.dropIndex drop))
  | createTable {name existence elements storage create}
    (built : CreateTable.build name existence elements storage = .ok create) :
    Constructed types session (.statement (.createTable create))
  | dropTable {name existence behavior drop}
    (built : DropTable.build name existence behavior = .ok drop) :
    Constructed types session (.statement (.dropTable drop))
  | alterTable {name actions alter} (built : AlterTable.build name actions = .ok alter) :
    Constructed types session (.statement (.alterTable alter))

mutual
/-- The nodes that an argument brings along. -/
def Argument.nodesOf : Argument → List Node
  | .node part => [part]
  | .nodes parts => parts
  | .list items => Argument.nodesOfAll items
  | _ => []

/-- The nodes that a list of arguments brings along. -/
def Argument.nodesOfAll : List Argument → List Node
  | [] => []
  | argument :: rest => argument.nodesOf ++ Argument.nodesOfAll rest
end

/-- The names that an edit puts into a node. -/
def Edit.names : Edit → List TableName
  | .setIndexName name => [name]
  | .setName name => name.toList
  | _ => []

/-- The nodes that a program can come to hold. A constructor takes its parts over as they are, so
    the parts of a call are the children of what it builds. -/
inductive Reachable (types : DataType → Prop) : Node → Prop where
  | construct {session} {node : Node} (built : Constructed types session node)
    (parts : ∀ child ∈ node.children, Reachable types child) : Reachable types node
  | produce {session kind node} {arguments : List Argument}
    (parts : ∀ part ∈ Argument.nodesOfAll arguments, Reachable types part)
    (built : Production.build session kind arguments = .ok node) : Reachable types node
  | edit {edit : Edit} {node edited} (before : Reachable types node)
    (parts : ∀ name ∈ edit.names, Reachable types (.tableName name))
    (applied : edit.apply node = .ok edited) : Reachable types edited

/-- A node that is built from no other node is reachable. -/
theorem Reachable.leaf {types : DataType → Prop} (session : Session) {node : Node}
    (built : Constructed types session node) (childless : node.children = []) :
    Reachable types node :=
  .construct built (by simp [childless])

end DdlTree
