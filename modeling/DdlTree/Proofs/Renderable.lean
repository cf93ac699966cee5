import DdlTree.Proofs.Acceptance
import DdlTree.Proofs.RenderExpr

/-! # What cannot be rendered

The rules that every reachable tree keeps leave one thing that a renderer cannot write: an option
whose key is no bare word, put into a bag after its node was built. Rendering meets the bags of a
tree in the order of the walk, so it stops at the first one that holds such a key.
-/

namespace DdlTree

/-! ## Faults -/

/-- What keeps a node from being written, apart from the nodes below it: the first key of its
    options that is no bare word. -/
def Node.faults (node : Node) : List RenderError :=
  (node.options?.bind Options.invalidKey?).toList.map fun key => ⟨node.kind, .invalidOptionKey key⟩

/-- The faults of a tree, in the order of the walk. -/
def Node.allFaults (node : Node) : List RenderError :=
  node.collect faults

theorem Node.allFaults_eq (node : Node) :
    node.allFaults = node.faults ++ node.children.flatMap allFaults :=
  node.collect_eq faults

/-- A node without options has no faults but those below it. -/
theorem Node.allFaults_eq_nil {node : Node} (bare : node.options? = none)
    (below : ∀ child ∈ node.children, child.allFaults = []) : node.allFaults = [] := by
  rw [allFaults_eq, faults, bare, List.flatMap_eq_nil_iff.mpr below]
  rfl

namespace Node

@[simp] theorem allFaults_tableName (table : TableName) : (tableName table).allFaults = [] :=
  allFaults_eq_nil rfl (by simp [children])

@[simp] theorem allFaults_columnList (columns : ColumnList) :
    (columnList columns).allFaults = [] :=
  allFaults_eq_nil rfl (by simp [children])

@[simp] theorem allFaults_expr (e : Expr) : (expr e).allFaults = [] := by
  induction e with
  | column table name span =>
      refine allFaults_eq_nil rfl fun child mem => ?_
      obtain ⟨part, -, rfl⟩ := List.mem_map.mp mem
      exact allFaults_tableName part
  | number | string | boolean | null =>
      exact allFaults_eq_nil rfl (by simp [children, Expr.children])
  | binary op left right span ihLeft ihRight =>
      exact allFaults_eq_nil rfl (by simp [children, Expr.children, ihLeft, ihRight])
  | not operand span ih | isNull operand negated span ih =>
      exact allFaults_eq_nil rfl (by simp [children, Expr.children, ih])

@[simp] theorem allFaults_indexColumn (column : IndexColumn) :
    (indexColumn column).allFaults = [] := by
  refine allFaults_eq_nil rfl fun child mem => ?_
  obtain ⟨part, -, rfl⟩ := List.mem_map.mp mem
  exact allFaults_tableName part

@[simp] theorem allFaults_indexColumnList (columns : IndexColumnList) :
    (indexColumnList columns).allFaults = [] := by
  refine allFaults_eq_nil rfl fun child mem => ?_
  obtain ⟨column, -, rfl⟩ := List.mem_map.mp mem
  exact allFaults_indexColumn column

@[simp] theorem allFaults_columnDefinition (column : ColumnDefinition) :
    (columnDefinition column).allFaults = [] := by
  refine allFaults_eq_nil rfl fun child mem => ?_
  obtain ⟨value, -, rfl⟩ := List.mem_map.mp mem
  exact allFaults_expr value

@[simp] theorem allFaults_constraint (c : Constraint) : (constraint c).allFaults = [] := by
  refine allFaults_eq_nil rfl fun child mem => ?_
  rcases List.mem_append.mp mem with mem | mem
  · obtain ⟨part, -, rfl⟩ := List.mem_map.mp mem
    exact allFaults_tableName part
  · cases body : c.body with
    | primaryKey columns | unique columns => simp_all [ConstraintBody.children]
    | check condition => simp_all [ConstraintBody.children]
    | foreignKey key =>
        simp only [body, ConstraintBody.children, List.mem_cons, List.mem_map] at mem
        obtain rfl | rfl | ⟨columns, -, rfl⟩ := mem <;> simp
    | drop d => simp [body, ConstraintBody.children] at mem

end Node

/-- Whether a node holds options with a key that is no bare word. -/
def Node.holdsInvalidKey (node : Node) : Bool :=
  node.options?.any fun bag => bag.keys.any fun key => !Text.isBareWord key

theorem Node.holdsInvalidKey_eq_false {node : Node} :
    node.holdsInvalidKey = false ↔ ∀ bag ∈ node.options?, bag.Plain := by
  cases isBag : node.options? with
  | none => simp [holdsInvalidKey, isBag]
  | some bag => simp [holdsInvalidKey, isBag, Options.Plain]

theorem Node.faults_eq_nil {node : Node} : node.faults = [] ↔ node.holdsInvalidKey = false := by
  rw [holdsInvalidKey_eq_false, faults]
  cases node.options? with
  | none => simp
  | some bag => simp [← Options.invalidKey?_eq_none]

theorem Node.head?_faults {node : Node} {error : RenderError} :
    node.faults.head? = some error ↔ ∃ bag key, node.options? = some bag ∧
      bag.invalidKey? = some key ∧ error = ⟨node.kind, .invalidOptionKey key⟩ := by
  rw [faults]
  cases node.options? with
  | none => simp
  | some bag => cases isInvalid : bag.invalidKey? <;> simp [isInvalid, eq_comm]

theorem Node.allFaults_eq_nil_iff {node : Node} :
    node.allFaults = [] ↔ ∀ part ∈ node.dfs, ∀ bag ∈ part.options?, bag.Plain := by
  simp only [allFaults, collect, List.flatMap_eq_nil_iff, faults_eq_nil, holdsInvalidKey_eq_false]

/-- The first fault of a tree is the one of the first node of the walk that has any. -/
theorem Node.head?_allFaults {node : Node} {error : RenderError} :
    node.allFaults.head? = some error ↔ ∃ part, node.find? holdsInvalidKey = some part ∧
      part.faults.head? = some error := by
  rw [allFaults, collect, find?]
  induction node.dfs with
  | nil => simp
  | cons part rest ih =>
      rw [List.flatMap_cons, List.find?_cons]
      cases invalid : part.holdsInvalidKey with
      | false => rw [faults_eq_nil.mpr invalid, List.nil_append, ih]
      | true =>
          obtain ⟨fault, others, split⟩ : ∃ fault others, part.faults = fault :: others :=
            List.exists_cons_of_ne_nil fun none => by simp [faults_eq_nil.mp none] at invalid
          simp [split]

/-! ## Steps of a renderer -/

/-- A step that stops at the first of the given faults, and comes to its end if there are none. -/
def StopsAt {α : Type} (step : Except RenderError α) : List RenderError → Prop
  | [] => ∃ value, step = .ok value
  | fault :: _ => step = .error fault

namespace StopsAt

variable {α β : Type} {step : Except RenderError α} {faults others : List RenderError}

theorem done (value : α) : StopsAt (pure value) [] :=
  ⟨value, rfl⟩

theorem bind {next : α → Except RenderError β} (first : StopsAt step faults)
    (second : ∀ value, StopsAt (next value) others) :
    StopsAt (step >>= next) (faults ++ others) := by
  cases faults with
  | nil =>
      obtain ⟨value, rfl⟩ := first
      exact second value
  | cons fault rest =>
      obtain rfl := first
      rfl

theorem map {f : α → β} (first : StopsAt step faults) :
    StopsAt (step >>= fun value => pure (f value)) faults := by
  have both := first.bind fun value => done (f value)
  rwa [List.append_nil] at both

theorem optional {write : α → Except RenderError String} {faultsOf : α → List RenderError}
    {part? : Option α} (each : ∀ part ∈ part?, StopsAt (write part) (faultsOf part)) :
    StopsAt (Style.optional write part?) (part?.toList.flatMap faultsOf) := by
  cases part? with
  | none => exact done none
  | some part =>
      rw [Option.toList_some, List.flatMap_singleton]
      exact (each part rfl).map

theorem mapM {write : α → Except RenderError β} {faultsOf : α → List RenderError}
    {items : List α} (each : ∀ item ∈ items, StopsAt (write item) (faultsOf item)) :
    StopsAt (items.mapM write) (items.flatMap faultsOf) := by
  induction items with
  | nil => exact done []
  | cons item rest ih =>
      rw [List.forall_mem_cons] at each
      rw [List.mapM_cons, List.flatMap_cons]
      exact each.1.bind fun _ => (ih each.2).map

theorem error_iff (stops : StopsAt step faults) {error : RenderError} :
    step = .error error ↔ faults.head? = some error := by
  cases faults with
  | nil =>
      obtain ⟨value, rfl⟩ := stops
      simp
  | cons fault rest =>
      obtain rfl := stops
      simp

theorem ok_iff (stops : StopsAt step faults) : (∃ value, step = .ok value) ↔ faults = [] := by
  cases faults with
  | nil => exact ⟨fun _ => rfl, fun _ => stops⟩
  | cons fault rest =>
      obtain rfl := stops
      simp

/-- A list of items that can all be written. -/
theorem each {write : α → Except RenderError β} {items : List α}
    (each : ∀ item ∈ items, StopsAt (write item) []) : StopsAt (items.mapM write) [] := by
  have all : StopsAt (items.mapM write) (items.flatMap fun _ => []) := mapM each
  rwa [List.flatMap_eq_nil_iff.mpr fun _ _ => rfl] at all

end StopsAt

/-! ## Steps without options -/

section Steps

variable {rule : DataType → Prop} {style : Style}

namespace Style

theorem stopsAt_columnList {list : ColumnList} (rules : list.WellFormed) :
    StopsAt (style.columnList list) [] := by
  rw [columnList, if_neg (by simpa using rules.nonempty)]
  exact (StopsAt.each fun column mem => identifier_ok (rules.named column mem)).map

theorem stopsAt_keyColumns {list : ColumnList} (valid : (Node.columnList list).Valid rule) :
    StopsAt (style.keyColumns list) [] :=
  (stopsAt_columnList (Node.valid_iff.mp valid).1).map

theorem stopsAt_tableName {table : TableName} (valid : (Node.tableName table).Valid rule) :
    StopsAt (style.tableName table) [] :=
  tableName_ok (Node.valid_iff.mp valid).1

/-- A part that can be written can be left out as well. -/
theorem stopsAt_optional {α : Type} {write : α → Except RenderError String} {wrap : α → Node}
    {part? : Option α} (each : ∀ {part}, (wrap part).Valid rule → StopsAt (write part) [])
    (valid : ∀ node ∈ part?.toList.map wrap, node.Valid rule) :
    StopsAt (Style.optional write part?) [] := by
  cases part? with
  | none => exact .done none
  | some part => exact (each (valid _ (List.mem_singleton_self _))).map

theorem stopsAt_indexColumn {column : IndexColumn}
    (valid : (Node.indexColumn column).Valid rule) : StopsAt (style.indexColumn column) [] := by
  obtain ⟨named, below⟩ := Node.valid_iff.mp valid
  have written : StopsAt (style.column .indexColumn column.table column.column) [] :=
    column_ok named fun table isTable =>
      (Node.valid_iff.mp (below _ (List.mem_map_of_mem (Option.mem_toList.mpr isTable)))).1
  exact written.map

theorem stopsAt_indexColumnList {list : IndexColumnList}
    (valid : (Node.indexColumnList list).Valid rule) :
    StopsAt (style.indexColumnList list) [] := by
  obtain ⟨rules, below⟩ := Node.valid_iff.mp valid
  rw [indexColumnList, if_neg (by simpa using rules.nonempty)]
  exact (StopsAt.each fun column mem => stopsAt_indexColumn (below _ (List.mem_map_of_mem mem))).map

theorem stopsAt_indexBody {index : IndexDefinition}
    (valid : (Node.indexColumnList index.columns).Valid rule) :
    StopsAt (style.indexBody index) [] :=
  (stopsAt_indexColumnList valid).map

/-- A drop that keeps the rules is named unless it drops the primary key. -/
theorem stopsAt_constraintDrop {name : Option TableName} {drop : ConstraintDrop}
    (rules : drop.WellFormed name)
    (named : ∀ node ∈ name.toList.map Node.tableName, node.Valid rule) :
    StopsAt (style.constraintDrop name drop) [] := by
  have allowed : ¬(name.isNone && drop.constraintType != .primaryKey) = true := by
    cases isNamed : name with
    | none => simp [rules.named isNamed]
    | some table => simp
  rw [constraintDrop, if_neg allowed]
  exact (stopsAt_optional stopsAt_tableName named).map

theorem stopsAt_constraintName {name : Option TableName}
    (named : ∀ node ∈ name.toList.map Node.tableName, node.Valid rule) :
    StopsAt (style.constraintName name) [] :=
  (stopsAt_optional stopsAt_tableName named).map

theorem stopsAt_foreignKey {key : ForeignKey}
    (valid : ∀ node ∈ (ConstraintBody.foreignKey key).children, node.Valid rule) :
    StopsAt (style.foreignKey key) [] := by
  simp only [ConstraintBody.children, List.forall_mem_cons] at valid
  obtain ⟨columns, refTable, refColumns⟩ := valid
  exact (stopsAt_keyColumns columns).bind fun _ => (stopsAt_tableName refTable).bind fun _ =>
    (stopsAt_optional stopsAt_keyColumns refColumns).map

variable (unlimited : style.maxDepth = none)

include unlimited

theorem stopsAt_expr {e : Expr} (valid : (Node.expr e).Valid rule) : StopsAt (style.expr e) [] :=
  exprAt_ok unlimited valid 0

theorem stopsAt_columnDefinition {column : ColumnDefinition}
    (valid : (Node.columnDefinition column).Valid rule) :
    StopsAt (style.columnDefinition column) [] := by
  obtain ⟨rules, below⟩ := Node.valid_iff.mp valid
  have name : StopsAt (style.identifier .columnDefinition column.name) [] :=
    identifier_ok rules.named
  exact name.bind fun _ => (stopsAt_optional (stopsAt_expr unlimited) below).map

theorem stopsAt_constraint {c : Constraint} (valid : (Node.constraint c).Valid rule) :
    StopsAt (style.constraint c) [] := by
  obtain ⟨rules, below⟩ := Node.valid_iff.mp valid
  obtain ⟨named, parts⟩ := List.forall_mem_append.mp below
  obtain ⟨name, body, span⟩ := c
  cases body with
  | primaryKey columns | unique columns =>
      exact (stopsAt_constraintName named).bind fun _ =>
        (stopsAt_keyColumns (parts _ (List.mem_singleton_self _))).map
  | check condition =>
      exact (stopsAt_constraintName named).bind fun _ =>
        (stopsAt_expr unlimited (parts _ (List.mem_singleton_self _))).map
  | foreignKey key =>
      exact (stopsAt_constraintName named).bind fun _ => (stopsAt_foreignKey parts).map
  | drop d => exact stopsAt_constraintDrop rules named

end Style

/-! ## Steps with options -/

namespace Style

/-- Options are written exactly if no key of theirs is at fault, and none are written if there are
    none. -/
theorem stopsAt_optionClause (kind : NodeKind) (opening : String) (bag : Options) :
    StopsAt (optionClause kind opening bag)
      (bag.invalidKey?.toList.map fun key => ⟨kind, .invalidOptionKey key⟩) := by
  rw [optionClause]
  split
  · rename_i empty
    have noEntry : bag.entries = [] := List.isEmpty_iff.mp empty
    have noKey : bag.invalidKey? = none := by simp [Options.invalidKey?, Options.keys, noEntry]
    rw [noKey]
    exact .done ""
  · cases isInvalid : bag.invalidKey? with
    | none =>
        have written : options kind bag = .ok (commaSeparated (bag.entries.map optionEntry)) := by
          rw [options, isInvalid]
        rw [written]
        exact .done _
    | some key =>
        have refused : options kind bag = .error ⟨kind, .invalidOptionKey key⟩ := by
          rw [options, isInvalid]
        rw [refused]
        rfl

theorem stopsAt_storageFormat {storage : StorageFormat}
    (valid : (Node.storageFormat storage).Valid rule) :
    StopsAt (style.storageFormat storage) (Node.storageFormat storage).allFaults := by
  have format : StopsAt (style.identifier .storageFormat storage.format) [] :=
    identifier_ok (Node.valid_iff.mp valid).1
  rw [Node.allFaults_eq, Node.children, List.flatMap_nil, List.append_nil]
  exact format.bind fun _ => (stopsAt_optionClause .storageFormat "" storage.options).map

theorem stopsAt_storageClause {storage : Option StorageFormat}
    (valid : ∀ node ∈ storage.toList.map Node.storageFormat, node.Valid rule) :
    StopsAt (style.storageClause storage)
      ((storage.toList.map Node.storageFormat).flatMap Node.allFaults) := by
  rw [List.flatMap_map]
  exact (StopsAt.optional fun part mem => stopsAt_storageFormat
    (valid _ (List.mem_map_of_mem (Option.mem_toList.mpr mem)))).map

theorem stopsAt_indexConstraint {constraint : IndexConstraint}
    (valid : (Node.indexConstraint constraint).Valid rule) :
    StopsAt (style.indexConstraint constraint) (Node.indexConstraint constraint).allFaults := by
  obtain ⟨rules, below⟩ := Node.valid_iff.mp valid
  simp only [Node.children, IndexDefinition.children, List.forall_mem_cons] at below
  have name : StopsAt (style.identifier .indexConstraint constraint.name) [] :=
    identifier_ok rules.named
  rw [Node.allFaults_eq, Node.children, IndexDefinition.children, List.flatMap_cons,
    Node.allFaults_indexColumnList]
  exact name.bind fun _ => (stopsAt_indexBody below.1).bind fun _ =>
    (stopsAt_storageClause below.2).map

/-- The options of the statement are written before those of its storage format, as its node stands
    before that of the storage format. -/
theorem stopsAt_createIndex {create : CreateIndex}
    (valid : (Node.statement (.createIndex create)).Valid rule) :
    StopsAt (style.createIndex create) (Node.statement (.createIndex create)).allFaults := by
  obtain ⟨-, below⟩ := Node.valid_iff.mp valid
  simp only [Node.children, Statement.children, IndexDefinition.children, List.forall_mem_cons]
    at below
  obtain ⟨name, table, columns, storage⟩ := below
  rw [Node.allFaults_eq, Node.children, Statement.children, IndexDefinition.children,
    List.flatMap_cons, List.flatMap_cons, List.flatMap_cons, Node.allFaults_tableName,
    Node.allFaults_tableName, Node.allFaults_indexColumnList]
  exact (stopsAt_tableName name).bind fun _ => (stopsAt_tableName table).bind fun _ =>
    (stopsAt_indexBody columns).bind fun _ =>
      (stopsAt_optionClause .createIndex " WITH " create.options).bind fun _ =>
        (stopsAt_storageClause storage).map

variable (unlimited : style.maxDepth = none)

include unlimited

theorem stopsAt_tableElement {element : TableElement} (valid : element.node.Valid rule) :
    StopsAt (style.tableElement element) element.node.allFaults := by
  cases element with
  | column column =>
      rw [TableElement.node, Node.allFaults_columnDefinition]
      exact stopsAt_columnDefinition unlimited valid
  | constraint c =>
      rw [TableElement.node, Node.allFaults_constraint]
      exact stopsAt_constraint unlimited valid
  | index index => exact stopsAt_indexConstraint valid

theorem stopsAt_createTable {create : CreateTable}
    (valid : (Node.statement (.createTable create)).Valid rule) :
    StopsAt (style.createTable create) (Node.statement (.createTable create)).allFaults := by
  obtain ⟨rules, below⟩ := Node.valid_iff.mp valid
  simp only [Node.children, Statement.children, List.forall_mem_cons, List.forall_mem_append,
    List.forall_mem_map] at below
  obtain ⟨name, elements, storage⟩ := below
  have nonempty : create.elements ≠ [] := by
    intro none
    exact rules.nonempty (by simp [CreateTable.columns, columnsOf, none])
  have elementsWritten : StopsAt (create.elements.mapM style.tableElement)
      ((create.elements.map TableElement.node).flatMap Node.allFaults) := by
    rw [List.flatMap_map]
    exact .mapM fun element mem => stopsAt_tableElement unlimited (elements element mem)
  rw [createTable, if_neg (by simpa using nonempty), Node.allFaults_eq, Node.children,
    Statement.children, List.flatMap_cons, List.flatMap_append, Node.allFaults_tableName]
  exact (stopsAt_tableName name).bind fun _ => elementsWritten.bind fun _ =>
    (stopsAt_storageClause (List.forall_mem_map.mpr storage)).map

theorem stopsAt_alterAction {action : AlterAction} (rules : action.WellFormed)
    (valid : ∀ node ∈ action.node?, node.Valid rule) : StopsAt (style.alterAction action) [] := by
  cases action with
  | addConstraint constraint => exact (stopsAt_constraint unlimited (valid _ rfl)).map
  | dropConstraint constraint => exact stopsAt_constraint unlimited (valid _ rfl)
  | addColumn column => exact (stopsAt_columnDefinition unlimited (valid _ rfl)).map
  | dropColumn column existence =>
      have name : StopsAt (style.identifier .alterTable column) [] := identifier_ok rules.2
      exact name.map

theorem stopsAt_alterTable {alter : AlterTable}
    (valid : (Node.statement (.alterTable alter)).Valid rule) :
    StopsAt (style.alterTable alter) (Node.statement (.alterTable alter)).allFaults := by
  obtain ⟨rules, below⟩ := Node.valid_iff.mp valid
  simp only [Node.children, Statement.children, List.forall_mem_cons] at below
  obtain ⟨name, actions⟩ := below
  have noFaults : (Node.statement (.alterTable alter)).allFaults = [] := by
    refine Node.allFaults_eq_nil rfl (List.forall_mem_cons.mpr ⟨Node.allFaults_tableName _, ?_⟩)
    intro child mem
    obtain ⟨action, -, isNode⟩ := List.mem_filterMap.mp mem
    cases action <;> simp only [AlterAction.node?, Option.some.injEq, reduceCtorEq] at isNode <;>
      subst isNode <;> simp
  have actionsWritten : StopsAt (alter.actions.mapM style.alterAction) [] :=
    .each fun action mem => stopsAt_alterAction unlimited (rules.actions action mem)
      fun node isNode => actions node (List.mem_filterMap.mpr ⟨action, mem, isNode⟩)
  rw [alterTable, if_neg (by simpa using rules.nonempty), noFaults]
  exact (stopsAt_tableName name).bind fun _ => actionsWritten.map

/-- A statement that only names what it drops holds no options. -/
theorem stopsAt_statement {s : Statement} (valid : (Node.statement s).Valid rule) :
    StopsAt (style.statement s) (Node.statement s).allFaults := by
  cases s with
  | createIndex create => exact stopsAt_createIndex valid
  | createTable create => exact stopsAt_createTable unlimited valid
  | alterTable alter => exact stopsAt_alterTable unlimited valid
  | dropIndex drop | dropTable drop =>
      have name : StopsAt (style.tableName drop.name) [] :=
        stopsAt_tableName ((Node.valid_iff.mp valid).2 _ (List.mem_singleton_self _))
      rw [Node.allFaults_eq_nil rfl (by simp [Node.children, Statement.children])]
      exact name.map

/-- Rendering a tree that keeps the rules stops at its first fault. -/
theorem stopsAt_render {node : Node} (valid : node.Valid rule) :
    StopsAt (style.render node) node.allFaults := by
  cases node with
  | tableName table =>
      rw [Node.allFaults_tableName]
      exact stopsAt_tableName valid
  | expr e =>
      rw [Node.allFaults_expr]
      exact stopsAt_expr unlimited valid
  | columnList columns =>
      rw [Node.allFaults_columnList]
      exact stopsAt_columnList (Node.valid_iff.mp valid).1
  | indexColumn column =>
      rw [Node.allFaults_indexColumn]
      exact stopsAt_indexColumn valid
  | indexColumnList columns =>
      rw [Node.allFaults_indexColumnList]
      exact stopsAt_indexColumnList valid
  | storageFormat storage => exact stopsAt_storageFormat valid
  | columnDefinition column =>
      rw [Node.allFaults_columnDefinition]
      exact stopsAt_columnDefinition unlimited valid
  | constraint c =>
      rw [Node.allFaults_constraint]
      exact stopsAt_constraint unlimited valid
  | indexConstraint index => exact stopsAt_indexConstraint valid
  | statement s => exact stopsAt_statement unlimited valid

end Style

end Steps

/-- Rendering fails only for keys of options: without a limit of depth, a reachable tree has a text
    exactly if all keys of its options are bare words, and otherwise the error is about the first
    node of the walk that holds another key. -/
theorem render_fails_at_invalid_key {style : Style} (unlimited : style.maxDepth = none)
    {node : Node} (reachable : Reachable (fun _ => True) node) :
    ((∃ text, style.render node = .ok text) ↔
        ∀ part ∈ node.dfs, ∀ bag ∈ part.options?, ∀ key ∈ bag.keys, Text.isBareWord key) ∧
      ∀ error, style.render node = .error error ↔
        ∃ part bag key, node.find? Node.holdsInvalidKey = some part ∧ part.options? = some bag ∧
          bag.invalidKey? = some key ∧ error = ⟨part.kind, .invalidOptionKey key⟩ := by
  have valid : node.Valid fun _ => True := reachable.valid (fun _ => id) fun _ _ => trivial
  have stops := Style.stopsAt_render unlimited valid
  refine ⟨stops.ok_iff.trans Node.allFaults_eq_nil_iff, fun error => ?_⟩
  rw [stops.error_iff, Node.head?_allFaults]
  simp only [Node.head?_faults, exists_and_left]

/-- A key that was put into a storage format after it was built stands in the way of every statement
    that holds the storage format. -/
theorem render_fails_at_invalid_key_inserted :
    (Edit.insertOption "block size" "8").apply (.storageFormat ⟨.regular "columnar", .empty, {}⟩)
        = .ok (.storageFormat ⟨.regular "columnar", .ofList [("block size", "8")], {}⟩) ∧
      Style.render {}
          (.storageFormat ⟨.regular "columnar", .ofList [("block size", "8")], {}⟩)
        = .error ⟨.storageFormat, .invalidOptionKey "block size"⟩ := by
  have built : Constructed (fun _ => True) ⟨.full, none⟩
      (.storageFormat ⟨.regular "columnar", .empty, {}⟩) :=
    .storageFormat (show StorageFormat.build _ (.regular "columnar") .empty = .ok _ from rfl)
  have applied : (Edit.insertOption "block size" "8").apply
      (.storageFormat ⟨.regular "columnar", .empty, {}⟩)
      = .ok (.storageFormat ⟨.regular "columnar", .ofList [("block size", "8")], {}⟩) := rfl
  have reachable := Reachable.edit (.construct built (by simp [Node.children]))
    (by simp [Edit.names]) applied
  have first : (Node.storageFormat
      ⟨.regular "columnar", .ofList [("block size", "8")], {}⟩).find? Node.holdsInvalidKey
      = some (.storageFormat ⟨.regular "columnar", .ofList [("block size", "8")], {}⟩) := by
    rw [Node.find?, Node.dfs_eq_preorder, Node.preorder_eq]
    rfl
  exact ⟨applied, ((render_fails_at_invalid_key rfl reachable).2 _).mpr
    ⟨_, _, "block size", first, rfl, rfl, rfl⟩⟩

end DdlTree
