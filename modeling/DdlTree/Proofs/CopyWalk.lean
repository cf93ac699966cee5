import DdlTree.Proofs.Copier
import DdlTree.Proofs.Invariant

/-! # The walk of a copier

A copier enters a node, walks through its children from left to right, and leaves the node by
building it anew. It fails to enter a node that lies too deep, and to leave one that the session
refuses to build. In a tree that keeps the rules nothing else can go wrong: the outcome of a copy is
the first failure of the walk, or the tree itself if there is none.
-/

namespace DdlTree

/-! ## Visits -/

/-- A step of the walk through a tree, with the number of nodes above the node. -/
inductive Visit where
  | enter (level : Nat) (node : Node)
  | leave (level : Nat) (node : Node)

/-- The walk through a node and all that lies below it, with `level` nodes above the node. -/
def Node.visits (level : Nat) (node : Node) : List Visit :=
  .enter level node :: (node.children.attach.flatMap fun ⟨child, _⟩ => child.visits (level + 1))
    ++ [.leave level node]
termination_by node.size
decreasing_by exact Node.size_lt_of_mem_children ‹_›

/-- Build a node from its parts by its own constructor and put it where it stood. Operators, and
    constants other than numbers, are never refused. -/
def Node.rebuild (session : Session) : Node → Except BuildError Node
  | .tableName table => do
      return .tableName { ← TableName.build table.schema table.name with span := table.span }
  | .expr (.column table name span) => do
      return .expr ((← Expr.buildColumn table name).withSpan span)
  | .expr (.number literal span) => do return .expr ((← Expr.buildNumber literal).withSpan span)
  | .expr e => .ok (.expr e)
  | .columnList list => do
      return .columnList { ← ColumnList.build list.columns with span := list.span }
  | .indexColumn column => do
      return .indexColumn { ← IndexColumn.build column.table column.column column.ascending with
        span := column.span }
  | .indexColumnList list => do
      return .indexColumnList { ← IndexColumnList.build list.columns with span := list.span }
  | .storageFormat storage => do
      return .storageFormat { ← StorageFormat.build session storage.format storage.options with
        span := storage.span }
  | .columnDefinition column => do
      return .columnDefinition
        { ← ColumnDefinition.build column.name column.dataType column.notNull column.defaultValue
          with span := column.span }
  | .constraint c => do
      return .constraint { ← Constraint.build session c.name c.body with span := c.span }
  | .indexConstraint i => do
      return .indexConstraint { ← IndexConstraint.build session i.name i.index with span := i.span }
  | .statement (.createIndex create) => do
      return .statement (.createIndex (← CreateIndex.build session create))
  | .statement (.dropIndex drop) => do
      return .statement (.dropIndex { ← DropIndex.build drop.name drop.existence with
        span := drop.span })
  | .statement (.createTable create) => do
      return .statement (.createTable
        { ← CreateTable.build create.name create.existence create.elements create.storageFormat
          with span := create.span })
  | .statement (.dropTable drop) => do
      return .statement (.dropTable { ← DropTable.build drop.name drop.existence drop.behavior with
        span := drop.span })
  | .statement (.alterTable alter) => do
      return .statement (.alterTable { ← AlterTable.build alter.name alter.actions with
        span := alter.span })

/-- How a visit fails in a session, if it does. -/
def Session.failure? (session : Session) : Visit → Option CopyError
  | .enter level node =>
      (session.maxCopyDepth.filter (· ≤ level)).map fun limit => ⟨node.kind, .tooDeep limit⟩
  | .leave _ node =>
      match node.rebuild session with
      | .ok _ => none
      | .error error => some ⟨node.kind, .refused error⟩

/-- What comes of a walk: the first failure, or a value if there is none. -/
def Session.outcome {α : Type} (session : Session) (value : α) (walk : List Visit) :
    Except CopyError α :=
  (walk.findSome? session.failure?).elim (.ok value) .error

theorem Session.outcome_eq_ok {α : Type} {session : Session} {value result : α}
    {walk : List Visit} : session.outcome value walk = .ok result ↔
      (∀ visit ∈ walk, session.failure? visit = none) ∧ value = result := by
  rw [outcome, ← List.findSome?_eq_none_iff]
  cases walk.findSome? session.failure? <;> simp

theorem Session.outcome_eq_error {α : Type} {session : Session} {value : α} {walk : List Visit}
    {error : CopyError} : session.outcome value walk = .error error ↔
      walk.findSome? session.failure? = some error := by
  rw [outcome]
  cases walk.findSome? session.failure? <;> simp

namespace Node

theorem visits_eq (level : Nat) (node : Node) :
    node.visits level
      = .enter level node :: node.children.flatMap (visits (level + 1)) ++ [.leave level node] := by
  rw [visits]
  simp only [List.flatMap_subtype, List.unattach_attach]

end Node

/-! ## Nodes built anew -/

/-- What a session asks of a node itself, apart from its depth. -/
def Session.AcceptsPart (session : Session) (node : Node) : Prop :=
  session.Enables node.features ∧ ∀ bag ∈ node.options?, bag.Plain

/-- A node without options holds no key that could be refused. -/
theorem Node.plain_of_none {node : Node} (noOptions : node.options? = none) :
    ∀ bag ∈ node.options?, bag.Plain := by
  simp [noOptions]

/-- A node without extensions and options is accepted everywhere. -/
theorem Session.acceptsPart_bare {session : Session} {node : Node} (noFeatures : node.features = [])
    (noOptions : node.options? = none) : session.AcceptsPart node :=
  ⟨noFeatures ▸ Session.enables_nil, Node.plain_of_none noOptions⟩

section Rebuild

variable {rule : DataType → Prop} {session : Session}

/-- A value that is built anew and then put at its position. -/
private theorem placed_eq_ok {α β : Type} {built : Except BuildError α} {accepted : Prop}
    {fresh : α} {value result : β} {place : α → β}
    (isBuilt : ∀ {y}, built = .ok y ↔ accepted ∧ y = fresh) (same : place fresh = value) :
    (built >>= fun fresh => Pure.pure (place fresh)) = .ok result ↔ accepted ∧ result = value := by
  simp only [bind_eq_ok, pure_eq_ok, isBuilt]
  constructor
  · rintro ⟨_, ⟨accepts, rfl⟩, rfl⟩
    exact ⟨accepts, same⟩
  · rintro ⟨accepts, rfl⟩
    exact ⟨fresh, ⟨accepts, rfl⟩, same⟩

/-- A constructor that asks for rules alone, given parts that keep them. -/
private theorem kept_eq_ok {α : Type} {built : Except BuildError α} {rules : α → Prop}
    {accepted : Prop} {fresh : α} (isBuilt : ∀ {y}, built = .ok y ↔ rules y ∧ y = fresh)
    (kept : rules fresh) (accepts : accepted) {y : α} : built = .ok y ↔ accepted ∧ y = fresh := by
  rw [isBuilt]
  constructor
  · rintro ⟨-, rfl⟩
    exact ⟨accepts, rfl⟩
  · rintro ⟨-, rfl⟩
    exact ⟨kept, rfl⟩

private theorem Expr.rebuild_eq_ok {expr : Expr} {fresh : Node} (rules : expr.WellFormed) :
    (Node.expr expr).rebuild session = .ok fresh ↔
      session.AcceptsPart (.expr expr) ∧ fresh = .expr expr := by
  have accepts : session.AcceptsPart (.expr expr) := Session.acceptsPart_bare rfl rfl
  cases expr with
  | column table name span =>
      exact placed_eq_ok (kept_eq_ok buildColumn_eq_ok rules accepts) rfl
  | number literal span =>
      exact placed_eq_ok (kept_eq_ok buildNumber_eq_ok rules accepts) rfl
  | string | boolean | null | binary | not | isNull =>
      simp [Node.rebuild, accepts, eq_comm]

private theorem StorageFormat.rebuild_eq_ok {storage fresh : StorageFormat}
    (named : storage.format.isEmpty = false) :
    StorageFormat.build session storage.format storage.options = .ok fresh ↔
      session.AcceptsPart (.storageFormat storage) ∧
        fresh = { format := storage.format, options := storage.options } := by
  rw [StorageFormat.build_eq_ok]
  constructor
  · rintro ⟨-, enabled, plain, same⟩
    exact ⟨⟨enabled, by simpa [Node.options?] using plain⟩, same⟩
  · rintro ⟨⟨enabled, plain⟩, same⟩
    exact ⟨named, enabled, plain _ rfl, same⟩

private theorem Constraint.rebuild_eq_ok {constraint fresh : Constraint}
    (rules : constraint.WellFormed) :
    Constraint.build session constraint.name constraint.body = .ok fresh ↔
      session.AcceptsPart (.constraint constraint) ∧
        fresh = { name := constraint.name, body := constraint.body } := by
  rw [Constraint.build_eq_ok]
  constructor
  · rintro ⟨-, enabled, same⟩
    exact ⟨⟨enabled, Node.plain_of_none rfl⟩, same⟩
  · rintro ⟨⟨enabled, -⟩, rfl⟩
    exact ⟨rules, enabled, rfl⟩

private theorem IndexConstraint.rebuild_eq_ok {constraint fresh : IndexConstraint}
    (rules : constraint.WellFormed) :
    IndexConstraint.build session constraint.name constraint.index = .ok fresh ↔
      session.AcceptsPart (.indexConstraint constraint) ∧
        fresh = { name := constraint.name, index := constraint.index } := by
  rw [IndexConstraint.build_eq_ok]
  constructor
  · rintro ⟨-, enabled, same⟩
    exact ⟨⟨enabled, Node.plain_of_none rfl⟩, same⟩
  · rintro ⟨⟨enabled, -⟩, rfl⟩
    exact ⟨⟨rules.named, rules.index⟩, enabled, rfl⟩

private theorem CreateIndex.rebuild_eq_ok {create fresh : CreateIndex}
    (rules : create.WellFormed) :
    CreateIndex.build session create = .ok fresh ↔
      session.AcceptsPart (.statement (.createIndex create)) ∧ fresh = create := by
  rw [CreateIndex.build_eq_ok]
  constructor
  · rintro ⟨-, enabled, plain, rfl⟩
    exact ⟨⟨enabled, by simpa [Node.options?] using plain⟩, rfl⟩
  · rintro ⟨⟨enabled, plain⟩, rfl⟩
    exact ⟨rules, enabled, plain _ rfl, rfl⟩

private theorem Statement.rebuild_eq_ok {statement : Statement} {fresh : Node}
    (rules : statement.WellFormed) :
    (Node.statement statement).rebuild session = .ok fresh ↔
      session.AcceptsPart (.statement statement) ∧ fresh = .statement statement := by
  cases statement with
  | createIndex create => exact placed_eq_ok (CreateIndex.rebuild_eq_ok rules) rfl
  | dropIndex drop =>
      exact placed_eq_ok
        (kept_eq_ok DropIndex.build_eq_ok rules (Session.acceptsPart_bare rfl rfl)) rfl
  | createTable create =>
      obtain ⟨existence, nonempty, distinct, noDrop⟩ := rules
      exact placed_eq_ok (kept_eq_ok CreateTable.build_eq_ok ⟨existence, nonempty, distinct, noDrop⟩
        (Session.acceptsPart_bare rfl rfl)) rfl
  | dropTable drop =>
      exact placed_eq_ok
        (kept_eq_ok DropTable.build_eq_ok rules (Session.acceptsPart_bare rfl rfl)) rfl
  | alterTable alter =>
      obtain ⟨nonempty, actions⟩ := rules
      exact placed_eq_ok (kept_eq_ok AlterTable.build_eq_ok ⟨nonempty, actions⟩
        (Session.acceptsPart_bare rfl rfl)) rfl

/-- A node that keeps the rules is built anew exactly if the session accepts it, and comes out as it
    was. -/
theorem Node.rebuild_eq_ok {node fresh : Node} (rules : node.WellFormed rule) :
    node.rebuild session = .ok fresh ↔ session.AcceptsPart node ∧ fresh = node := by
  have bare {node : Node} (noFeatures : node.features = []) (noOptions : node.options? = none) :
      session.AcceptsPart node := Session.acceptsPart_bare noFeatures noOptions
  cases node with
  | tableName table =>
      obtain ⟨named, schemaNamed⟩ := rules
      exact placed_eq_ok (kept_eq_ok TableName.build_eq_ok ⟨named, schemaNamed⟩ (bare rfl rfl)) rfl
  | expr e => exact Expr.rebuild_eq_ok rules
  | columnList list =>
      obtain ⟨nonempty, named, distinct⟩ := rules
      exact placed_eq_ok
        (kept_eq_ok ColumnList.build_eq_ok ⟨nonempty, named, distinct⟩ (bare rfl rfl)) rfl
  | indexColumn column =>
      exact placed_eq_ok (kept_eq_ok IndexColumn.build_eq_ok rules (bare rfl rfl)) rfl
  | indexColumnList list =>
      obtain ⟨nonempty, distinct⟩ := rules
      exact placed_eq_ok
        (kept_eq_ok IndexColumnList.build_eq_ok ⟨nonempty, distinct⟩ (bare rfl rfl)) rfl
  | storageFormat storage => exact placed_eq_ok (StorageFormat.rebuild_eq_ok rules) rfl
  | columnDefinition column =>
      obtain ⟨named, typed⟩ := rules
      exact placed_eq_ok
        (kept_eq_ok (ColumnDefinition.build_eq_ok typed) ⟨named, typed⟩ (bare rfl rfl)) rfl
  | constraint c => exact placed_eq_ok (Constraint.rebuild_eq_ok rules) rfl
  | indexConstraint index => exact placed_eq_ok (IndexConstraint.rebuild_eq_ok rules) rfl
  | statement s => exact Statement.rebuild_eq_ok rules

end Rebuild

/-! ## Steps of a copier -/

namespace CopyM

variable {α β : Type}

/-- A step that copies `nodes` from left to right into the value that they make up. Its outcome is
    that of the walks through them; the copier stays in its session and comes back to its depth. -/
def Follows (step : CopyM α) (value : α) (nodes : List Node) : Prop :=
  ∀ (session : Session) (level copied : Nat), ∃ count, step ⟨session, level, copied⟩
    = (session.outcome value (nodes.flatMap (Node.visits level)), ⟨session, level, count⟩)

theorem follows_pure (value : α) : Follows (Pure.pure value) value [] :=
  fun _ _ copied => ⟨copied, rfl⟩

theorem Follows.bind {first : CopyM α} {next : α → CopyM β} {part : α} {value : β}
    {nodes others : List Node} (firstFollows : Follows first part nodes)
    (nextFollows : Follows (next part) value others) :
    Follows (first >>= next) value (nodes ++ others) := by
  intro session level copied
  obtain ⟨count, run⟩ := firstFollows session level copied
  rw [List.flatMap_append]
  cases walked : (nodes.flatMap (Node.visits level)).findSome? session.failure? with
  | some error =>
      rw [Session.outcome, walked] at run
      exact ⟨count, by rw [bind_of_error run, Session.outcome, List.findSome?_append, walked]; rfl⟩
  | none =>
      rw [Session.outcome, walked] at run
      obtain ⟨last, runNext⟩ := nextFollows session level count
      refine ⟨last, ?_⟩
      rw [bind_of_ok run, runNext, Session.outcome, Session.outcome, List.findSome?_append, walked,
        Option.none_or]

theorem Follows.map {step : CopyM α} {part : α} {nodes : List Node} (f : α → β)
    (follows : Follows step part nodes) :
    Follows (step >>= fun part => Pure.pure (f part)) (f part) nodes := by
  have both : Follows (step >>= fun part => Pure.pure (f part)) (f part) (nodes ++ []) :=
    follows.bind (follows_pure (f part))
  rwa [List.append_nil] at both

theorem follows_optional {copy : α → CopyM α} {wrap : α → Node} {part? : Option α}
    (follows : ∀ part ∈ part?, Follows (copy part) part [wrap part]) :
    Follows (optional copy part?) part? (part?.toList.map wrap) := by
  cases part? with
  | none => exact follows_pure none
  | some part => exact (follows part rfl).map some

theorem follows_each {copy : α → CopyM α} {nodes : α → List Node} {parts : List α}
    (follows : ∀ part ∈ parts, Follows (copy part) part (nodes part)) :
    Follows (each copy parts) parts (parts.flatMap nodes) := by
  induction parts with
  | nil => exact follows_pure []
  | cons part rest ih =>
      rw [List.forall_mem_cons] at follows
      exact follows.1.bind ((ih follows.2).map (part :: ·))

/-- A node is entered, its children are walked through, and it is left. -/
theorem Follows.node {parts : CopyM β} {build : Session → β → Except BuildError α} {value : α}
    {below : β} {node : Node} {wrap : α → Node} {rule : DataType → Prop}
    (partsFollow : Follows parts below node.children) (rules : node.WellFormed rule)
    (same : ∀ session, (build session below).map wrap = node.rebuild session)
    (only : ∀ fresh, wrap fresh = node → fresh = value) :
    Follows (CopyM.node node.kind parts build) value [node] := by
  intro session level copied
  rw [List.flatMap_singleton, Node.visits_eq, Session.outcome, List.findSome?_append,
    List.findSome?_cons, Session.failure?]
  cases deep : session.maxCopyDepth.filter (· ≤ level) with
  | some limit =>
      obtain ⟨given, reached⟩ := Option.filter_eq_some_iff.mp deep
      exact ⟨copied, node_of_limit given (by simpa using reached)⟩
  | none =>
      have shallow (limit : Nat) (given : session.maxCopyDepth = some limit) : level < limit := by
        simpa [given] using deep
      obtain ⟨count, run⟩ := partsFollow session (level + 1) copied
      rw [Option.map_none]
      cases walked : (node.children.flatMap (Node.visits (level + 1))).findSome?
          session.failure? with
      | some error =>
          rw [Session.outcome, walked] at run
          exact ⟨count, node_of_parts_error shallow run⟩
      | none =>
          rw [Session.outcome, walked] at run
          rw [Option.none_or, List.findSome?_singleton, Session.failure?, ← same]
          cases built : build session below with
          | error error => exact ⟨count, node_of_refused shallow run built⟩
          | ok fresh =>
              have rebuilt : node.rebuild session = .ok (wrap fresh) := by rw [← same, built]; rfl
              obtain rfl := only fresh ((Node.rebuild_eq_ok rules).mp rebuilt).2
              exact ⟨count + 1, node_of_built shallow run built⟩

theorem Follows.leaf {build : Session → Except BuildError α} {value : α} {node : Node}
    {wrap : α → Node} {rule : DataType → Prop} (childless : node.children = [])
    (rules : node.WellFormed rule)
    (same : ∀ session, (build session).map wrap = node.rebuild session)
    (only : ∀ fresh, wrap fresh = node → fresh = value) :
    Follows (CopyM.leaf node.kind build) value [node] :=
  .node (by rw [childless]; exact follows_pure ()) rules same only

end CopyM

/-! ## Copies of nodes -/

section Nodes

open CopyM

variable {rule : DataType → Prop}

theorem TableName.follows {table : TableName} (valid : (Node.tableName table).Valid rule) :
    Follows table.copy table [.tableName table] :=
  .leaf rfl (Node.valid_iff.mp valid).1 (fun _ => map_bind) fun _ => Node.tableName.inj

theorem ColumnList.follows {list : ColumnList} (valid : (Node.columnList list).Valid rule) :
    Follows list.copy list [.columnList list] :=
  .leaf rfl (Node.valid_iff.mp valid).1 (fun _ => map_bind) fun _ => Node.columnList.inj

/-- An optional part below a valid node. -/
private theorem follows_optional_of_valid {α : Type} {copy : α → CopyM α} {wrap : α → Node}
    {part? : Option α}
    (follows : ∀ {part}, (wrap part).Valid rule → Follows (copy part) part [wrap part])
    (valid : ∀ node ∈ part?.toList.map wrap, node.Valid rule) :
    Follows (optional copy part?) part? (part?.toList.map wrap) :=
  follows_optional fun _ mem => follows (valid _ (List.mem_map_of_mem (Option.mem_toList.mpr mem)))

theorem Expr.follows {expr : Expr} (valid : (Node.expr expr).Valid rule) :
    Follows expr.copy expr [.expr expr] := by
  obtain ⟨rules, below⟩ := Node.valid_iff.mp valid
  induction expr with
  | column table name span =>
      rw [Expr.copy]
      exact .node (follows_optional_of_valid TableName.follows below) rules (fun _ => map_map)
        fun _ => Node.expr.inj
  | number literal span =>
      -- a copier takes the literal over unchecked, and a valid tree has no other than numerals
      have isNumeral : Expr.buildNumber literal = .ok (.number literal {}) := if_pos rules
      have same (session : Session) : (Except.ok (.number literal span)).map Node.expr
          = (Node.expr (.number literal span)).rebuild session := by
        rw [Node.rebuild, isNumeral]
        rfl
      rw [Expr.copy]
      exact .leaf rfl rules same fun _ => Node.expr.inj
  | string | boolean | null =>
      rw [Expr.copy]
      exact .leaf rfl rules (fun _ => rfl) fun _ => Node.expr.inj
  | binary op left right span ihLeft ihRight =>
      simp only [Node.children, children, List.forall_mem_cons] at below
      obtain ⟨leftRules, leftBelow⟩ := Node.valid_iff.mp below.1
      obtain ⟨rightRules, rightBelow⟩ := Node.valid_iff.mp below.2.1
      have leftFollows := ihLeft below.1 leftRules leftBelow
      have rightFollows := ihRight below.2.1 rightRules rightBelow
      rw [Expr.copy]
      exact .node (leftFollows.bind (rightFollows.map (left, ·))) rules (fun _ => rfl)
        fun _ => Node.expr.inj
  | not operand span ih | isNull operand negated span ih =>
      have operandValid := below _ (List.mem_singleton_self _)
      obtain ⟨operandRules, operandBelow⟩ := Node.valid_iff.mp operandValid
      rw [Expr.copy]
      exact .node (ih operandValid operandRules operandBelow) rules (fun _ => rfl)
        fun _ => Node.expr.inj

theorem IndexColumn.follows {column : IndexColumn} (valid : (Node.indexColumn column).Valid rule) :
    Follows column.copy column [.indexColumn column] := by
  obtain ⟨rules, below⟩ := Node.valid_iff.mp valid
  exact .node (follows_optional_of_valid TableName.follows below) rules (fun _ => map_bind)
    fun _ => Node.indexColumn.inj

theorem IndexColumnList.follows {list : IndexColumnList}
    (valid : (Node.indexColumnList list).Valid rule) :
    Follows list.copy list [.indexColumnList list] := by
  obtain ⟨rules, below⟩ := Node.valid_iff.mp valid
  have columns : Follows (each IndexColumn.copy list.columns) list.columns
      (Node.indexColumnList list).children := by
    rw [Node.children, List.map_eq_flatMap]
    exact follows_each fun column mem => IndexColumn.follows (below _ (List.mem_map_of_mem mem))
  exact .node columns rules (fun _ => map_bind) fun _ => Node.indexColumnList.inj

theorem StorageFormat.follows {storage : StorageFormat}
    (valid : (Node.storageFormat storage).Valid rule) :
    Follows storage.copy storage [.storageFormat storage] :=
  .leaf rfl (Node.valid_iff.mp valid).1 (fun _ => map_bind) fun _ => Node.storageFormat.inj

theorem ColumnDefinition.follows {column : ColumnDefinition}
    (valid : (Node.columnDefinition column).Valid rule) :
    Follows column.copy column [.columnDefinition column] := by
  obtain ⟨rules, below⟩ := Node.valid_iff.mp valid
  exact .node (follows_optional_of_valid Expr.follows below) rules (fun _ => map_bind)
    fun _ => Node.columnDefinition.inj

theorem ConstraintBody.follows {body : ConstraintBody}
    (valid : ∀ node ∈ body.children, node.Valid rule) : Follows body.copy body body.children := by
  cases body with
  | primaryKey columns => exact (ColumnList.follows (valid _ (List.mem_singleton_self _))).map _
  | unique columns => exact (ColumnList.follows (valid _ (List.mem_singleton_self _))).map _
  | check condition => exact (Expr.follows (valid _ (List.mem_singleton_self _))).map _
  | foreignKey key =>
      simp only [children, List.forall_mem_cons] at valid
      obtain ⟨columns, refTable, refColumns⟩ := valid
      exact (ColumnList.follows columns).bind <| (TableName.follows refTable).bind <|
        (follows_optional_of_valid ColumnList.follows refColumns).map _
  | drop d => exact follows_pure _

theorem Constraint.follows {constraint : Constraint}
    (valid : (Node.constraint constraint).Valid rule) :
    Follows constraint.copy constraint [.constraint constraint] := by
  obtain ⟨rules, below⟩ := Node.valid_iff.mp valid
  simp only [Node.children, List.forall_mem_append] at below
  have parts : Follows (do
      let name ← CopyM.optional TableName.copy constraint.name
      let body ← constraint.body.copy
      return (name, body)) (constraint.name, constraint.body)
        (Node.constraint constraint).children :=
    (follows_optional_of_valid TableName.follows below.1).bind
      ((ConstraintBody.follows below.2).map (constraint.name, ·))
  rw [Constraint.copy]
  exact .node parts rules (fun _ => map_bind) fun _ => Node.constraint.inj

theorem IndexDefinition.follows {index : IndexDefinition}
    (valid : ∀ node ∈ index.children, node.Valid rule) :
    Follows index.copy index index.children := by
  simp only [children, List.forall_mem_cons] at valid
  exact (IndexColumnList.follows valid.1).bind
    ((follows_optional_of_valid StorageFormat.follows valid.2).map _)

theorem IndexConstraint.follows {constraint : IndexConstraint}
    (valid : (Node.indexConstraint constraint).Valid rule) :
    Follows constraint.copy constraint [.indexConstraint constraint] := by
  obtain ⟨rules, below⟩ := Node.valid_iff.mp valid
  exact .node (IndexDefinition.follows below) rules (fun _ => map_bind)
    fun _ => Node.indexConstraint.inj

theorem CreateIndex.follows {create : CreateIndex}
    (valid : (Node.statement (.createIndex create)).Valid rule) :
    Follows create.copy create [.statement (.createIndex create)] := by
  obtain ⟨rules, below⟩ := Node.valid_iff.mp valid
  simp only [Node.children, Statement.children, List.forall_mem_cons] at below
  obtain ⟨name, table, index⟩ := below
  have parts : Follows (do
      let name ← create.name.copy
      let table ← create.table.copy
      let index ← create.index.copy
      return { create with name, table, index }) create
        (Node.statement (.createIndex create)).children :=
    (TableName.follows name).bind
      ((TableName.follows table).bind ((IndexDefinition.follows index).map _))
  exact .node parts rules (fun _ => rfl) fun _ same =>
    Statement.createIndex.inj (Node.statement.inj same)

theorem DropIndex.follows {drop : DropIndex}
    (valid : (Node.statement (.dropIndex drop)).Valid rule) :
    Follows drop.copy drop [.statement (.dropIndex drop)] := by
  obtain ⟨rules, below⟩ := Node.valid_iff.mp valid
  exact .node (TableName.follows (below _ (List.mem_singleton_self _))) rules (fun _ => map_bind)
    fun _ same => Statement.dropIndex.inj (Node.statement.inj same)

theorem TableElement.follows {element : TableElement} (valid : element.node.Valid rule) :
    Follows element.copy element [element.node] := by
  cases element with
  | column column => exact (ColumnDefinition.follows valid).map _
  | constraint constraint => exact (Constraint.follows valid).map _
  | index index => exact (IndexConstraint.follows valid).map _

theorem CreateTable.follows {create : CreateTable}
    (valid : (Node.statement (.createTable create)).Valid rule) :
    Follows create.copy create [.statement (.createTable create)] := by
  obtain ⟨rules, below⟩ := Node.valid_iff.mp valid
  simp only [Node.children, Statement.children, List.forall_mem_cons, List.forall_mem_append]
    at below
  obtain ⟨name, elements, storage⟩ := below
  have elementsFollow : Follows (each TableElement.copy create.elements) create.elements
      (create.elements.map TableElement.node) := by
    rw [List.map_eq_flatMap]
    exact follows_each fun element mem =>
      TableElement.follows (elements _ (List.mem_map_of_mem mem))
  have parts : Follows (do
      let name ← create.name.copy
      let elements ← each TableElement.copy create.elements
      let storageFormat ← CopyM.optional StorageFormat.copy create.storageFormat
      return (name, elements, storageFormat))
        (create.name, create.elements, create.storageFormat)
        (Node.statement (.createTable create)).children :=
    (TableName.follows name).bind <| elementsFollow.bind <|
      (follows_optional_of_valid StorageFormat.follows storage).map _
  rw [CreateTable.copy]
  exact .node parts rules (fun _ => map_bind) fun _ same =>
    Statement.createTable.inj (Node.statement.inj same)

theorem DropTable.follows {drop : DropTable}
    (valid : (Node.statement (.dropTable drop)).Valid rule) :
    Follows drop.copy drop [.statement (.dropTable drop)] := by
  obtain ⟨rules, below⟩ := Node.valid_iff.mp valid
  exact .node (TableName.follows (below _ (List.mem_singleton_self _))) rules (fun _ => map_bind)
    fun _ same => Statement.dropTable.inj (Node.statement.inj same)

theorem AlterAction.follows {action : AlterAction}
    (valid : ∀ node ∈ action.node?.toList, node.Valid rule) :
    Follows action.copy action action.node?.toList := by
  cases action with
  | addConstraint constraint | dropConstraint constraint =>
      exact (Constraint.follows (valid _ (List.mem_singleton_self _))).map _
  | addColumn column => exact (ColumnDefinition.follows (valid _ (List.mem_singleton_self _))).map _
  | dropColumn column existence => exact follows_pure _

theorem AlterTable.follows {alter : AlterTable}
    (valid : (Node.statement (.alterTable alter)).Valid rule) :
    Follows alter.copy alter [.statement (.alterTable alter)] := by
  obtain ⟨rules, below⟩ := Node.valid_iff.mp valid
  simp only [Node.children, Statement.children, List.forall_mem_cons] at below
  obtain ⟨name, actions⟩ := below
  have actionsFollow : Follows (each AlterAction.copy alter.actions) alter.actions
      (alter.actions.filterMap AlterAction.node?) := by
    rw [List.filterMap_eq_flatMap_toList] at actions ⊢
    exact follows_each fun action mem => AlterAction.follows fun node isNode =>
      actions node (List.mem_flatMap.mpr ⟨action, mem, isNode⟩)
  have parts : Follows (do
      let name ← alter.name.copy
      let actions ← each AlterAction.copy alter.actions
      return (name, actions)) (alter.name, alter.actions)
        (Node.statement (.alterTable alter)).children :=
    (TableName.follows name).bind (actionsFollow.map (alter.name, ·))
  rw [AlterTable.copy]
  exact .node parts rules (fun _ => map_bind) fun _ same =>
    Statement.alterTable.inj (Node.statement.inj same)

theorem Statement.follows {statement : Statement} (valid : (Node.statement statement).Valid rule) :
    Follows statement.copy statement [.statement statement] := by
  cases statement with
  | createIndex create => exact (CreateIndex.follows valid).map _
  | dropIndex drop => exact (DropIndex.follows valid).map _
  | createTable create => exact (CreateTable.follows valid).map _
  | dropTable drop => exact (DropTable.follows valid).map _
  | alterTable alter => exact (AlterTable.follows valid).map _

/-- A copier walks through a valid tree and ends up with the tree itself, unless a visit fails. -/
theorem Node.follows {node : Node} (valid : node.Valid rule) : Follows node.copy node [node] := by
  cases node with
  | tableName name => exact (TableName.follows valid).map _
  | expr e => exact (Expr.follows valid).map _
  | columnList columns => exact (ColumnList.follows valid).map _
  | indexColumn column => exact (IndexColumn.follows valid).map _
  | indexColumnList columns => exact (IndexColumnList.follows valid).map _
  | storageFormat storage => exact (StorageFormat.follows valid).map _
  | columnDefinition column => exact (ColumnDefinition.follows valid).map _
  | constraint c => exact (Constraint.follows valid).map _
  | indexConstraint index => exact (IndexConstraint.follows valid).map _
  | statement s => exact (Statement.follows valid).map _

theorem Node.copy_outcome {node : Node} (valid : node.Valid rule) (session : Session)
    (level : Nat) :
    (node.copy { session, depth := level }).1 = session.outcome node (node.visits level) := by
  obtain ⟨count, run⟩ := Node.follows valid session level 0
  rw [run, List.flatMap_singleton]

end Nodes

end DdlTree
