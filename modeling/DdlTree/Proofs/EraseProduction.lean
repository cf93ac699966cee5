import DdlTree.Proofs.Arity
import DdlTree.Proofs.EraseBuild

/-! # Productions without positions

A production looks at the positions of its arguments no more than the constructors do: from
arguments without positions it builds the node that it builds from the arguments, without positions.
-/

namespace DdlTree

/-! ## Nodes and arguments -/

@[simp] theorem Node.kind_erase (node : Node) : node.erase.kind = node.kind := by
  cases node with
  | expr e => cases e <;> rfl
  | statement s => cases s <;> rfl
  | _ => rfl

theorem Node.tableName?_erase (node : Node) :
    node.erase.tableName? = node.tableName?.map TableName.erase := by
  cases node <;> rfl

theorem Node.columnList?_erase (node : Node) :
    node.erase.columnList? = node.columnList?.map ColumnList.erase := by
  cases node <;> rfl

theorem Node.indexColumn?_erase (node : Node) :
    node.erase.indexColumn? = node.indexColumn?.map IndexColumn.erase := by
  cases node <;> rfl

theorem Node.indexColumnList?_erase (node : Node) :
    node.erase.indexColumnList? = node.indexColumnList?.map IndexColumnList.erase := by
  cases node <;> rfl

theorem Node.storageFormat?_erase (node : Node) :
    node.erase.storageFormat? = node.storageFormat?.map StorageFormat.erase := by
  cases node <;> rfl

@[simp] theorem Argument.phrase_erase (argument : Argument) :
    argument.erase.phrase = argument.phrase := by
  cases argument with
  | node n => rw [erase, phrase, phrase, Node.kind_erase]
  | _ => rfl

theorem Argument.eraseAll_eq_map (items : List Argument) : eraseAll items = items.map erase := by
  induction items with
  | nil => rfl
  | cons item rest ih => rw [eraseAll, ih, List.map_cons]

/-! ## Readers -/

namespace Place

@[simp] theorem refuse_erase {α : Type} (place : Place) (expected : Shape) (nullable : Bool)
    (found : Argument) :
    (place.refuse expected nullable found.erase : Except BuildError α)
      = place.refuse expected nullable found := by
  rw [refuse, refuse, Argument.phrase_erase]

/-- A reader that refuses nodes and lists looks at no position. -/
private theorem read_erase {α : Type} (read : Argument → Except BuildError α) (place : Place)
    {expected : Shape} {nullable : Bool}
    (node : ∀ n, read (.node n) = place.refuse expected nullable (.node n))
    (nodes : ∀ ns, read (.nodes ns) = place.refuse expected nullable (.nodes ns))
    (list : ∀ items, read (.list items) = place.refuse expected nullable (.list items))
    (argument : Argument) : read argument.erase = read argument := by
  cases argument with
  | node n => rw [node, ← refuse_erase, Argument.erase, node]
  | nodes ns => rw [nodes, ← refuse_erase, Argument.erase, nodes]
  | list items => rw [list, ← refuse_erase, Argument.erase, list]
  | _ => rfl

variable (place : Place) (argument : Argument)

@[simp] theorem bool_erase : place.bool argument.erase = place.bool argument :=
  read_erase place.bool place (fun _ => rfl) (fun _ => rfl) (fun _ => rfl) argument

@[simp] theorem int_erase : place.int argument.erase = place.int argument :=
  read_erase place.int place (fun _ => rfl) (fun _ => rfl) (fun _ => rfl) argument

@[simp] theorem int?_erase : place.int? argument.erase = place.int? argument :=
  read_erase place.int? place (fun _ => rfl) (fun _ => rfl) (fun _ => rfl) argument

@[simp] theorem text_erase : place.text argument.erase = place.text argument :=
  read_erase place.text place (fun _ => rfl) (fun _ => rfl) (fun _ => rfl) argument

@[simp] theorem textOrInt_erase : place.textOrInt argument.erase = place.textOrInt argument :=
  read_erase place.textOrInt place (fun _ => rfl) (fun _ => rfl) (fun _ => rfl) argument

@[simp] theorem identifier_erase : place.identifier argument.erase = place.identifier argument :=
  read_erase place.identifier place (fun _ => rfl) (fun _ => rfl) (fun _ => rfl) argument

@[simp] theorem identifier?_erase :
    place.identifier? argument.erase = place.identifier? argument :=
  read_erase place.identifier? place (fun _ => rfl) (fun _ => rfl) (fun _ => rfl) argument

@[simp] theorem word_erase : place.word argument.erase = place.word argument :=
  read_erase place.word place (fun _ => rfl) (fun _ => rfl) (fun _ => rfl) argument

@[simp] theorem tag_erase {α : Type} (vocabulary : Vocabulary α) :
    place.tag vocabulary argument.erase = place.tag vocabulary argument :=
  read_erase (place.tag vocabulary) place (fun _ => rfl) (fun _ => rfl) (fun _ => rfl) argument

@[simp] theorem tag?_erase {α : Type} (vocabulary : Vocabulary α) :
    place.tag? vocabulary argument.erase = place.tag? vocabulary argument :=
  read_erase (place.tag? vocabulary) place (fun _ => rfl) (fun _ => rfl) (fun _ => rfl) argument

@[simp] theorem existence_erase : place.existence argument.erase = place.existence argument := by
  rw [existence, existence, tag?_erase]

@[simp] theorem options_erase : place.options argument.erase = place.options argument :=
  read_erase place.options place (fun _ => rfl) (fun _ => rfl) (fun _ => rfl) argument

@[simp] theorem action_erase : place.action argument.erase = place.action argument := by
  rw [action, action, int_erase]

theorem node_erase {α : Type} {kind : NodeKind} {get? : Node → Option α} {erase : α → α}
    (gets : ∀ node : Node, get? node.erase = (get? node).map erase) :
    place.node kind get? argument.erase = (place.node kind get? argument).map erase := by
  cases argument with
  | node n =>
      rw [Argument.erase, Place.node, Place.node, gets]
      cases get? n with
      | none => exact place.refuse_erase _ _ (.node n)
      | some value => rfl
  | nodes ns => exact place.refuse_erase _ _ (.nodes ns)
  | list items => exact place.refuse_erase _ _ (.list items)
  | _ => rfl

theorem node?_erase {α : Type} {kind : NodeKind} {get? : Node → Option α} {erase : α → α}
    (gets : ∀ node : Node, get? node.erase = (get? node).map erase) :
    place.node? kind get? argument.erase
      = (place.node? kind get? argument).map (Option.map erase) := by
  cases argument with
  | node n =>
      have read : place.node kind get? (.node n.erase)
          = (place.node kind get? (.node n)).map erase := place.node_erase (.node n) gets
      rw [Argument.erase, node?, node?, read, map_map, map_map]
      rfl
  | nodes ns => exact place.refuse_erase _ _ (.nodes ns)
  | list items => exact place.refuse_erase _ _ (.list items)
  | _ => rfl

theorem value_erase : place.value argument.erase = (place.value argument).map Expr.erase := by
  cases argument with
  | node n =>
      cases n with
      | expr e => rfl
      | _ => exact place.refuse_erase _ _ (.node _)
  | nodes ns => exact place.refuse_erase _ _ (.nodes ns)
  | list items => exact place.refuse_erase _ _ (.list items)
  | _ => rfl

theorem value?_erase :
    place.value? argument.erase = (place.value? argument).map (Option.map Expr.erase) := by
  cases argument with
  | node n =>
      cases n with
      | expr e => rfl
      | _ => exact place.refuse_erase _ _ (.node _)
  | nodes ns => exact place.refuse_erase _ _ (.nodes ns)
  | list items => exact place.refuse_erase _ _ (.list items)
  | _ => rfl

theorem nodes_erase :
    place.nodes argument.erase = (place.nodes argument).map (List.map Node.erase) := by
  cases argument with
  | node n => exact place.refuse_erase _ _ (.node n)
  | list items => exact place.refuse_erase _ _ (.list items)
  | _ => rfl

end Place

/-! ## Productions -/

namespace Production

variable {session : Session} {arguments : List Argument}

/-- A list is as long without positions. -/
private theorem refuseCount_erase {α β : Type} (kind : NodeKind) (expected : Nat) (erase : α → β)
    (arguments : List Argument) :
    refuseCount kind expected (arguments.map Argument.erase)
      = (refuseCount kind expected arguments).map erase := by
  rw [refuseCount, refuseCount, List.length_map, map_error]

theorem tableName_erase (given : arguments.length = 2) :
    tableName (arguments.map Argument.erase) = (tableName arguments).map Node.erase := by
  match arguments, given with
  | [schema, name], _ =>
    simp only [List.map_cons, List.map_nil, tableName, Place.identifier?_erase,
      Place.identifier_erase, map_bind, map_pure, Node.erase_tableName,
      bind_of_map_eq (TableName.map_erase_build _ _) fun table => pure (Node.tableName table)]

theorem columnReference_erase (given : arguments.length = 2) :
    columnReference (arguments.map Argument.erase)
      = (columnReference arguments).map Node.erase := by
  match arguments, given with
  | [table, column], _ =>
    simp only [List.map_cons, List.map_nil, columnReference,
      Place.node?_erase _ _ Node.tableName?_erase, Place.identifier_erase, bind_map, map_bind,
      map_pure, Node.erase_expr, Expr.buildColumn_erase]

theorem numericConstant_erase (given : arguments.length = 1) :
    numericConstant (arguments.map Argument.erase)
      = (numericConstant arguments).map Node.erase := by
  match arguments, given with
  | [value], _ =>
    simp only [List.map_cons, List.map_nil, numericConstant, Place.textOrInt_erase, map_bind,
      map_pure, Node.erase_expr,
      bind_of_map_eq (Expr.map_erase_buildNumber _) fun number => pure (Node.expr number)]

theorem stringConstant_erase (given : arguments.length = 1) :
    stringConstant (arguments.map Argument.erase) = (stringConstant arguments).map Node.erase := by
  match arguments, given with
  | [value], _ =>
    simp only [List.map_cons, List.map_nil, stringConstant, Place.text_erase, map_bind,
      map_pure, Node.erase_expr, Expr.erase_string]

theorem booleanConstant_erase (given : arguments.length = 1) :
    booleanConstant (arguments.map Argument.erase)
      = (booleanConstant arguments).map Node.erase := by
  match arguments, given with
  | [value], _ =>
    simp only [List.map_cons, List.map_nil, booleanConstant, Place.bool_erase, map_bind,
      map_pure, Node.erase_expr, Expr.erase_boolean]

theorem nullConstant_erase (given : arguments.length = 0) :
    nullConstant (arguments.map Argument.erase) = (nullConstant arguments).map Node.erase := by
  match arguments, given with
  | [], _ => rfl

theorem binaryOperator_erase (given : arguments.length = 3) :
    binaryOperator (arguments.map Argument.erase) = (binaryOperator arguments).map Node.erase := by
  match arguments, given with
  | [operator, left, right], _ =>
    simp only [List.map_cons, List.map_nil, binaryOperator, Place.tag_erase, Place.value_erase,
      bind_map, map_bind, map_pure, Node.erase_expr, Expr.erase_binary]

theorem not_erase (given : arguments.length = 1) :
    not (arguments.map Argument.erase) = (not arguments).map Node.erase := by
  match arguments, given with
  | [operand], _ =>
    simp only [List.map_cons, List.map_nil, not, Place.value_erase, bind_map, map_bind,
      map_pure, Node.erase_expr, Expr.erase_not]

theorem isNull_erase (given : arguments.length = 2) :
    isNull (arguments.map Argument.erase) = (isNull arguments).map Node.erase := by
  match arguments, given with
  | [operand, negated], _ =>
    simp only [List.map_cons, List.map_nil, isNull, Place.value_erase, Place.bool_erase,
      bind_map, map_bind, map_pure, Node.erase_expr, Expr.erase_isNull]

theorem plainColumn_erase (node : Node) : plainColumn node.erase = plainColumn node := by
  cases node with
  | expr e =>
      cases e with
      | column table name span =>
          cases table with
          | none => rfl
          | some table => simp [plainColumn, qualifiedText]
      | _ => rfl
  | statement s => cases s <;> rfl
  | _ => rfl

private theorem columns_erase (nodes : List Node) :
    (nodes.map Node.erase).mapM plainColumn = nodes.mapM plainColumn :=
  mapM_map_congr plainColumn_erase nodes

theorem columnList_erase (given : arguments.length = 1) :
    columnList (arguments.map Argument.erase) = (columnList arguments).map Node.erase := by
  match arguments, given with
  | [columns], _ =>
    simp only [List.map_cons, List.map_nil, columnList, Place.nodes_erase, columns_erase,
      bind_map, map_bind, map_pure, Node.erase_columnList,
      bind_of_map_eq (ColumnList.map_erase_build _) fun list => pure (Node.columnList list)]

theorem indexColumn_erase (given : arguments.length = 3) :
    indexColumn (arguments.map Argument.erase) = (indexColumn arguments).map Node.erase := by
  match arguments, given with
  | [table, column, ascending], _ =>
    simp only [List.map_cons, List.map_nil, indexColumn,
      Place.node?_erase _ _ Node.tableName?_erase, Place.identifier_erase, Place.bool_erase,
      bind_map, map_bind, map_pure, Node.erase_indexColumn, IndexColumn.build_erase]

private theorem indexColumns_erase (place : Place) (nodes : List Node) :
    (nodes.map Node.erase).mapM
        (fun node => place.node .indexColumn Node.indexColumn? (.node node))
      = (nodes.mapM fun node => place.node .indexColumn Node.indexColumn? (.node node)).map
          (List.map IndexColumn.erase) := by
  refine mapM_map_eq ?_ nodes
  intro node
  exact place.node_erase (.node node) Node.indexColumn?_erase

theorem indexColumnList_erase (given : arguments.length = 1) :
    indexColumnList (arguments.map Argument.erase)
      = (indexColumnList arguments).map Node.erase := by
  match arguments, given with
  | [columns], _ =>
    simp only [List.map_cons, List.map_nil, indexColumnList, Place.nodes_erase,
      indexColumns_erase, bind_map, map_bind, map_pure, Node.erase_indexColumnList,
      IndexColumnList.build_erase]

theorem storageFormat_erase (given : arguments.length = 2) :
    storageFormat session (arguments.map Argument.erase)
      = (storageFormat session arguments).map Node.erase := by
  match arguments, given with
  | [format, options], _ =>
    simp only [List.map_cons, List.map_nil, storageFormat, Place.identifier_erase,
      Place.options_erase, map_bind, map_pure, Node.erase_storageFormat,
      bind_of_map_eq (StorageFormat.map_erase_build _ _) fun storage =>
        pure (Node.storageFormat storage)]

theorem columnDefinition_erase (given : arguments.length = 6) :
    columnDefinition (arguments.map Argument.erase)
      = (columnDefinition arguments).map Node.erase := by
  match arguments, given with
  | [name, type, length, scale, notNull, defaultValue], _ =>
    simp only [List.map_cons, List.map_nil, columnDefinition, Place.identifier_erase,
      Place.word_erase, Place.int?_erase, Place.bool_erase, Place.value?_erase, bind_map,
      map_bind, map_pure, Node.erase_columnDefinition, ColumnDefinition.build_erase]

theorem keyConstraint_erase {body : ColumnList → ConstraintBody}
    (bodies : ∀ columns : ColumnList, body columns.erase = (body columns).erase)
    (given : arguments.length = 2) :
    keyConstraint session body (arguments.map Argument.erase)
      = (keyConstraint session body arguments).map Constraint.erase := by
  match arguments, given with
  | [name, columns], _ =>
    simp only [List.map_cons, List.map_nil, keyConstraint, constraintName,
      Place.node?_erase _ _ Node.tableName?_erase,
      Place.node_erase _ _ Node.columnList?_erase, bind_map, map_bind,
      ← Constraint.build_erase, bodies]

theorem checkConstraint_erase (given : arguments.length = 2) :
    checkConstraint session (arguments.map Argument.erase)
      = (checkConstraint session arguments).map Constraint.erase := by
  match arguments, given with
  | [name, condition], _ =>
    simp only [List.map_cons, List.map_nil, checkConstraint, constraintName,
      Place.node?_erase _ _ Node.tableName?_erase, Place.value_erase, bind_map, map_bind,
      ← Constraint.build_erase, ConstraintBody.erase_check]

theorem foreignKeyConstraint_erase (given : arguments.length = 10) :
    foreignKeyConstraint session (arguments.map Argument.erase)
      = (foreignKeyConstraint session arguments).map Constraint.erase := by
  match arguments, given with
  | [name, refTable, columns, refColumns, deleteRule, updateRule, matchType, grouping,
      deferrable, initiallyDeferred], _ =>
    simp only [List.map_cons, List.map_nil, foreignKeyConstraint, constraintName,
      Place.node?_erase _ _ Node.tableName?_erase, Place.node_erase _ _ Node.tableName?_erase,
      Place.node?_erase _ _ Node.columnList?_erase, Place.node_erase _ _ Node.columnList?_erase,
      Place.action_erase, Place.tag?_erase, Place.bool_erase, bind_map, map_bind,
      ← Constraint.build_erase, ConstraintBody.erase_foreignKey, ForeignKey.erase_eq]

theorem dropConstraint_erase (given : arguments.length = 5) :
    dropConstraint session (arguments.map Argument.erase)
      = (dropConstraint session arguments).map Constraint.erase := by
  match arguments, given with
  | [name, constraintType, behavior, grouping, existence], _ =>
    simp only [List.map_cons, List.map_nil, dropConstraint, constraintName,
      Place.node?_erase _ _ Node.tableName?_erase, Place.tag_erase, Place.tag?_erase,
      Place.bool_erase, Place.existence_erase, bind_map, map_bind, ← Constraint.build_erase,
      ConstraintBody.erase_drop]

theorem ofSubKind_erase (subKind : SubKind) (arguments : List Argument) :
    ofSubKind session subKind (arguments.map Argument.erase)
      = (ofSubKind session subKind arguments).map Constraint.erase := by
  by_cases given : arguments.length = subKind.arity
  · cases subKind with
    | primaryKey => exact keyConstraint_erase ConstraintBody.erase_primaryKey given
    | unique => exact keyConstraint_erase ConstraintBody.erase_unique given
    | check => exact checkConstraint_erase given
    | foreignKey => exact foreignKeyConstraint_erase given
    | drop => exact dropConstraint_erase given
  · rw [ofSubKind_of_length given, ofSubKind_of_length (by rwa [List.length_map])]
    exact refuseCount_erase .constraintDefinition subKind.arity Constraint.erase arguments

theorem constraintDefinition_erase (arguments : List Argument) :
    constraintDefinition session (arguments.map Argument.erase)
      = (constraintDefinition session arguments).map Node.erase := by
  cases arguments with
  | nil => rfl
  | cons first arguments =>
      cases first with
      | tag word =>
          simp only [List.map_cons, Argument.erase, constraintDefinition]
          cases SubKind.tags.lookup word with
          | none => rfl
          | some subKind => simp only [ofSubKind_erase, map_map, Node.erase_constraint]
      | node n => exact Place.refuse_erase _ _ _ (.node n)
      | nodes ns => exact Place.refuse_erase _ _ _ (.nodes ns)
      | list items => exact Place.refuse_erase _ _ _ (.list items)
      | _ => rfl

theorem indexConstraint_erase (given : arguments.length = 5) :
    indexConstraint session (arguments.map Argument.erase)
      = (indexConstraint session arguments).map Node.erase := by
  match arguments, given with
  | [name, unique, columns, joinType, storageFormat], _ =>
    simp only [List.map_cons, List.map_nil, indexConstraint, Place.identifier_erase,
      Place.bool_erase, Place.tag?_erase, Place.node_erase _ _ Node.indexColumnList?_erase,
      Place.node?_erase _ _ Node.storageFormat?_erase, bind_map, map_bind, map_pure,
      Node.erase_indexConstraint, IndexDefinition.erase_mk, IndexConstraint.build_erase]

theorem createIndex_erase (given : arguments.length = 8) :
    createIndex session (arguments.map Argument.erase)
      = (createIndex session arguments).map Node.erase := by
  match arguments, given with
  | [unique, name, table, columns, joinType, options, existence, storageFormat], _ =>
    simp only [List.map_cons, List.map_nil, createIndex, Place.bool_erase, Place.tag?_erase,
      Place.options_erase, Place.existence_erase, Place.node_erase _ _ Node.tableName?_erase,
      Place.node_erase _ _ Node.indexColumnList?_erase,
      Place.node?_erase _ _ Node.storageFormat?_erase, bind_map, map_bind, map_pure,
      Node.erase_statement, Statement.erase_createIndex, IndexDefinition.erase_mk,
      CreateIndex.erase_mk, CreateIndex.build_erase]

theorem dropIndex_erase (given : arguments.length = 2) :
    dropIndex (arguments.map Argument.erase) = (dropIndex arguments).map Node.erase := by
  match arguments, given with
  | [name, existence], _ =>
    simp only [List.map_cons, List.map_nil, dropIndex,
      Place.node_erase _ _ Node.tableName?_erase, Place.existence_erase, bind_map, map_bind,
      map_pure, Node.erase_statement, Statement.erase_dropIndex, DropIndex.build_erase]

theorem tableElement_erase (node : Node) :
    tableElement node.erase = (tableElement node).map TableElement.erase := by
  cases node with
  | expr e => cases e <;> rfl
  | statement s => cases s <;> rfl
  | _ => rfl

private theorem elements_erase (nodes : List Node) :
    (nodes.map Node.erase).mapM tableElement
      = (nodes.mapM tableElement).map (List.map TableElement.erase) :=
  mapM_map_eq tableElement_erase nodes

theorem createTable_erase (given : arguments.length = 4) :
    createTable (arguments.map Argument.erase) = (createTable arguments).map Node.erase := by
  match arguments, given with
  | [name, existence, elements, storageFormat], _ =>
    simp only [List.map_cons, List.map_nil, createTable,
      Place.node_erase _ _ Node.tableName?_erase, Place.existence_erase, Place.nodes_erase,
      elements_erase, Place.node?_erase _ _ Node.storageFormat?_erase, bind_map, map_bind,
      map_pure, Node.erase_statement, Statement.erase_createTable, CreateTable.build_erase]

theorem dropTable_erase (given : arguments.length = 3) :
    dropTable (arguments.map Argument.erase) = (dropTable arguments).map Node.erase := by
  match arguments, given with
  | [name, existence, behavior], _ =>
    simp only [List.map_cons, List.map_nil, dropTable,
      Place.node_erase _ _ Node.tableName?_erase, Place.existence_erase, Place.tag?_erase,
      bind_map, map_bind, map_pure, Node.erase_statement, Statement.erase_dropTable,
      DropTable.build_erase]

theorem dropColumn_erase (table : Option TableName) (column : Identifier)
    (existence : ExistenceCheck) :
    dropColumn (table.map TableName.erase) column existence
      = (dropColumn table column existence).map AlterAction.erase := by
  cases table with
  | none => rfl
  | some table =>
      simp only [dropColumn, Option.map_some, qualifiedText, TableName.text_erase, map_error]

theorem checkedDropColumn_erase (arguments : List Argument) :
    checkedDropColumn (arguments.map Argument.erase)
      = (checkedDropColumn arguments).map AlterAction.erase := by
  by_cases given : arguments.length = 2
  · match arguments, given with
    | [existence, column], _ =>
      simp only [List.map_cons, List.map_nil, checkedDropColumn, Place.existence_erase,
        Place.value_erase, bind_map, map_bind]
      refine bind_congr fun existence => bind_congr fun value => ?_
      cases value with
      | column table name span => exact dropColumn_erase table name existence
      | _ => rfl
  · rw [checkedDropColumn_of_length given,
      checkedDropColumn_of_length (by rwa [List.length_map])]
    exact refuseCount_erase .alterTable 2 AlterAction.erase arguments

theorem alterAction_erase (argument : Argument) :
    alterAction argument.erase = (alterAction argument).map AlterAction.erase := by
  cases argument with
  | node n =>
      cases n with
      | expr e =>
          cases e with
          | column table name span => exact dropColumn_erase table name .noCondition
          | _ => rfl
      | constraint c => exact congrArg Except.ok (AlterAction.ofConstraint_erase c)
      | statement s => cases s <;> rfl
      | _ => rfl
  | list items =>
      rw [Argument.erase, Argument.eraseAll_eq_map]
      exact checkedDropColumn_erase items
  | _ => rfl

theorem actions_erase (argument : Argument) :
    actions argument.erase = (actions argument).map (List.map Argument.erase) := by
  cases argument with
  | node n => exact Place.refuse_erase _ _ _ (.node n)
  | nodes ns =>
      rw [Argument.erase, actions, actions, map_ok, List.map_map, List.map_map]
      rfl
  | list items => rw [Argument.erase, actions, actions, map_ok, Argument.eraseAll_eq_map]
  | _ => rfl

private theorem alterActions_erase (items : List Argument) :
    (items.map Argument.erase).mapM alterAction
      = (items.mapM alterAction).map (List.map AlterAction.erase) :=
  mapM_map_eq alterAction_erase items

theorem alterTable_erase (given : arguments.length = 2) :
    alterTable (arguments.map Argument.erase) = (alterTable arguments).map Node.erase := by
  match arguments, given with
  | [name, items], _ =>
    simp only [List.map_cons, List.map_nil, alterTable,
      Place.node_erase _ _ Node.tableName?_erase, actions_erase, alterActions_erase, bind_map,
      map_bind, map_pure, Node.erase_statement, Statement.erase_alterTable,
      AlterTable.build_erase]

/-- A production that is given as many arguments as it takes. -/
private theorem build_erase_of_length {kind : NodeKind}
    (given : ∀ count ∈ kind.arity?, arguments.length = count) :
    build session kind (arguments.map Argument.erase)
      = (build session kind arguments).map Node.erase := by
  cases kind with
  | tableName => exact tableName_erase (given 2 rfl)
  | columnReference => exact columnReference_erase (given 2 rfl)
  | numericConstant => exact numericConstant_erase (given 1 rfl)
  | stringConstant => exact stringConstant_erase (given 1 rfl)
  | booleanConstant => exact booleanConstant_erase (given 1 rfl)
  | nullConstant => exact nullConstant_erase (given 0 rfl)
  | binaryOperator => exact binaryOperator_erase (given 3 rfl)
  | not => exact not_erase (given 1 rfl)
  | isNull => exact isNull_erase (given 2 rfl)
  | columnList => exact columnList_erase (given 1 rfl)
  | indexColumn => exact indexColumn_erase (given 3 rfl)
  | indexColumnList => exact indexColumnList_erase (given 1 rfl)
  | storageFormat => exact storageFormat_erase (given 2 rfl)
  | columnDefinition => exact columnDefinition_erase (given 6 rfl)
  | constraintDefinition => exact constraintDefinition_erase arguments
  | indexConstraint => exact indexConstraint_erase (given 5 rfl)
  | createIndex => exact createIndex_erase (given 8 rfl)
  | dropIndex => exact dropIndex_erase (given 2 rfl)
  | createTable => exact createTable_erase (given 4 rfl)
  | dropTable => exact dropTable_erase (given 3 rfl)
  | alterTable => exact alterTable_erase (given 2 rfl)

/-- A production builds the same node, or refuses its arguments for the same reason, wherever the
    nodes among its arguments stand. -/
theorem build_erase (session : Session) (kind : NodeKind) (arguments : List Argument) :
    build session kind (arguments.map Argument.erase)
      = (build session kind arguments).map Node.erase := by
  by_cases given : ∀ count ∈ kind.arity?, arguments.length = count
  · exact build_erase_of_length given
  · simp only [not_forall] at given
    obtain ⟨count, arity, other⟩ := given
    rw [build_of_length arity other, build_of_length arity (by rwa [List.length_map])]
    exact refuseCount_erase kind count Node.erase arguments

end Production

end DdlTree
