import DdlTree.Proofs.Ancestry
import DdlTree.Proofs.Writer

/-! # Limits of depth

A renderer with a limit of depth does what it does without one, until it comes to an expression with
too many expressions above it. It meets the expressions of a tree in the order of the walk, and the
count starts anew at each expression that stands in no other one, whatever was rendered before.
-/

namespace DdlTree

/-! ## Expressions that lie too deep -/

namespace Node

def isExpr (node : Node) : Bool :=
  node.expr?.isSome

/-- The expressions of a tree with as many expressions above them as the limit or more, as errors of
    a renderer in the order of the walk. -/
def depthFaults (limit : Nat) (above : List Node) (node : Node) : List RenderError :=
  ((node.ancestry above).filter fun entry => entry.2.isExpr && limit ≤ entry.1.countP isExpr).map
    fun entry => ⟨entry.2.kind, .tooDeep limit⟩

variable {limit : Nat} {above : List Node} {node : Node}

theorem depthFaults_eq :
    node.depthFaults limit above
      = (if node.isExpr && limit ≤ above.countP isExpr then [⟨node.kind, .tooDeep limit⟩] else [])
        ++ node.children.flatMap (depthFaults limit (node :: above)) := by
  rw [depthFaults, ancestry_eq, List.filter_cons, List.filter_flatMap]
  split_ifs <;> simp only [List.map_cons, List.map_flatMap, List.singleton_append,
    List.nil_append] <;> rfl

theorem depthFaults_of_not_expr (other : node.isExpr = false) :
    node.depthFaults limit above = node.children.flatMap (depthFaults limit (node :: above)) := by
  rw [depthFaults_eq, other]
  rfl

/-- A node that is no expression and has none below it has no expression that lies too deep. -/
theorem depthFaults_eq_nil (other : node.isExpr = false)
    (below : ∀ child ∈ node.children, child.depthFaults limit (node :: above) = []) :
    node.depthFaults limit above = [] := by
  rw [depthFaults_of_not_expr other, List.flatMap_eq_nil_iff.mpr below]

@[simp] theorem depthFaults_tableName (table : TableName) :
    (tableName table).depthFaults limit above = [] :=
  depthFaults_eq_nil rfl (by simp [children])

@[simp] theorem depthFaults_columnList (columns : ColumnList) :
    (columnList columns).depthFaults limit above = [] :=
  depthFaults_eq_nil rfl (by simp [children])

@[simp] theorem depthFaults_storageFormat (storage : StorageFormat) :
    (storageFormat storage).depthFaults limit above = [] :=
  depthFaults_eq_nil rfl (by simp [children])

@[simp] theorem depthFaults_indexColumn (column : IndexColumn) :
    (indexColumn column).depthFaults limit above = [] := by
  refine depthFaults_eq_nil rfl fun child mem => ?_
  obtain ⟨table, -, rfl⟩ := List.mem_map.mp mem
  exact depthFaults_tableName table

@[simp] theorem depthFaults_indexColumnList (columns : IndexColumnList) :
    (indexColumnList columns).depthFaults limit above = [] := by
  refine depthFaults_eq_nil rfl fun child mem => ?_
  obtain ⟨column, -, rfl⟩ := List.mem_map.mp mem
  exact depthFaults_indexColumn column

theorem depthFaults_index {index : IndexDefinition} {child : Node} (mem : child ∈ index.children) :
    child.depthFaults limit above = [] := by
  rw [IndexDefinition.children, List.mem_cons, List.mem_map] at mem
  obtain rfl | ⟨storage, -, rfl⟩ := mem <;> simp

@[simp] theorem depthFaults_indexConstraint (index : IndexConstraint) :
    (indexConstraint index).depthFaults limit above = [] :=
  depthFaults_eq_nil rfl fun _ mem => depthFaults_index mem

/-- Below a node that is no expression there are as many expressions above as at the node. -/
theorem countP_cons_of_not_expr (other : node.isExpr = false) :
    (node :: above).countP isExpr = above.countP isExpr :=
  List.countP_cons_of_neg (by simp [other])

theorem countP_cons_expr (e : Expr) : (expr e :: above).countP isExpr = above.countP isExpr + 1 :=
  List.countP_cons_of_pos rfl

/-- Two searches that find the same in each part find the same in all. -/
private theorem find?_flatMap_congr {α β : Type} {f : α → List β} {p q : β → Bool}
    {items : List α} (same : ∀ item ∈ items, (f item).find? p = (f item).find? q) :
    (items.flatMap f).find? p = (items.flatMap f).find? q := by
  induction items with
  | nil => rfl
  | cons item rest ih =>
      rw [List.forall_mem_cons] at same
      rw [List.flatMap_cons, List.find?_append, List.find?_append, same.1, ih same.2]

/-- The first expression that lies too deep lies exactly as deep as the limit: what is above it is
    met before it. -/
theorem find?_tooDeep (shallow : above.countP isExpr ≤ limit) :
    ((node.ancestry above).find? fun entry => entry.2.isExpr && limit ≤ entry.1.countP isExpr)
      = (node.ancestry above).find? fun entry =>
          entry.2.isExpr && entry.1.countP isExpr == limit := by
  induction node using treeInduction generalizing above with
  | step node ih =>
      rw [ancestry_eq, List.find?_cons, List.find?_cons]
      -- either the node itself is found, at the limit, or what is below is still at most that deep
      by_cases found : node.isExpr ∧ limit ≤ above.countP isExpr
      · have exact : above.countP isExpr = limit := by omega
        simp [found.1, exact]
      · have below : (node :: above).countP isExpr ≤ limit := by
          rw [List.countP_cons]
          split_ifs with isExpr
          · have notYet : ¬limit ≤ above.countP Node.isExpr := fun deep => found ⟨isExpr, deep⟩
            omega
          · exact shallow
        have passed : (node.isExpr && decide (limit ≤ above.countP isExpr)) = false := by
          simpa using found
        have notExact : (node.isExpr && above.countP isExpr == limit) = false := by
          rw [Bool.eq_false_iff]
          intro isExact
          rw [Bool.and_eq_true, beq_iff_eq] at isExact
          exact found ⟨isExact.1, isExact.2.ge⟩
        rw [passed, notExact]
        exact find?_flatMap_congr fun child mem => ih child mem below

end Node

/-! ## Steps with a limit -/

/-- What a limit does to a step that succeeds without it: the step stops at the first of the given
    errors, or comes to the same result if there are none. -/
def Limits {α : Type} (free limited : Except RenderError α) (faults : List RenderError) : Prop :=
  ∀ value, free = .ok value → limited = faults.head?.elim (.ok value) .error

namespace Limits

variable {α β : Type} {free limited : Except RenderError α} {faults others : List RenderError}

/-- A step that the limit does not matter to. -/
theorem same (step : Except RenderError α) : Limits step step [] :=
  fun _ done => done

theorem bind {next nextLimited : α → Except RenderError β} (first : Limits free limited faults)
    (second : ∀ value, Limits (next value) (nextLimited value) others) :
    Limits (free >>= next) (limited >>= nextLimited) (faults ++ others) := by
  intro result done
  obtain ⟨value, isFirst, isSecond⟩ := bind_eq_ok.mp done
  rw [first value isFirst]
  cases faults with
  | nil => exact second value result isSecond
  | cons fault rest => rfl

theorem map {f : α → β} (first : Limits free limited faults) :
    Limits (free >>= fun value => pure (f value)) (limited >>= fun value => pure (f value))
      faults := by
  have both := first.bind fun value => same (pure (f value))
  rwa [List.append_nil] at both

theorem optional {write writeLimited : α → Except RenderError String}
    {faultsOf : α → List RenderError}
    (each : ∀ part, Limits (write part) (writeLimited part) (faultsOf part)) (part? : Option α) :
    Limits (Style.optional write part?) (Style.optional writeLimited part?)
      (part?.toList.flatMap faultsOf) := by
  cases part? with
  | none => exact same _
  | some part =>
      rw [Option.toList_some, List.flatMap_singleton]
      exact (each part).map

theorem mapM {write writeLimited : α → Except RenderError β} {faultsOf : α → List RenderError}
    (each : ∀ item, Limits (write item) (writeLimited item) (faultsOf item)) (items : List α) :
    Limits (items.mapM write) (items.mapM writeLimited) (items.flatMap faultsOf) := by
  induction items with
  | nil => exact same _
  | cons item rest ih =>
      rw [List.mapM_cons, List.mapM_cons, List.flatMap_cons]
      exact (each item).bind fun _ => ih.map

/-- A step that is refused from the start is refused with and without a limit. -/
theorem refuse {refused : Prop} [Decidable refused] {error : RenderError}
    (rest : Limits free limited faults) :
    Limits (if refused then .error error else free) (if refused then .error error else limited)
      faults := by
  intro value done
  obtain ⟨accepted, isRest⟩ := refuse_eq_ok.mp done
  rw [if_neg accepted]
  exact rest value isRest

end Limits

/-- The style with another limit. -/
def Style.withLimit (style : Style) (limit : Option Nat) : Style :=
  { style with maxDepth := limit }

section Steps

open Node

variable {style : Style} {limit : Nat} {above : List Node}

namespace Style

/-- An expression is refused if it lies too deep, and otherwise what is below it counts. -/
theorem limits_nested {e : Expr} {level : Nat} {free limited : Except RenderError String}
    (body : Limits free limited
      (e.children.flatMap (depthFaults limit (.expr e :: above)))) :
    Limits (do (style.withLimit none).checkDepth level e.kind; free)
      (do (style.withLimit (some limit)).checkDepth (above.countP isExpr) e.kind; limited)
      ((Node.expr e).depthFaults limit above) := by
  rw [depthFaults_eq]
  by_cases deep : limit ≤ above.countP isExpr
  · have refused : (style.withLimit (some limit)).checkDepth (above.countP isExpr) e.kind
        = .error ⟨e.kind, .tooDeep limit⟩ := if_pos deep
    rw [refused]
    simp only [deep]
    -- the body is never entered, so what else lies too deep below does not matter
    intro value done
    rfl
  · have passes : (style.withLimit (some limit)).checkDepth (above.countP isExpr) e.kind
        = .ok () := if_neg deep
    rw [passes]
    simp only [deep]
    exact body

theorem limits_exprAt (e : Expr) (level : Nat) (above : List Node) :
    Limits ((style.withLimit none).exprAt level e)
      ((style.withLimit (some limit)).exprAt (above.countP isExpr) e)
      ((Node.expr e).depthFaults limit above) := by
  induction e generalizing level above with
  | column table name span =>
      have free : (Expr.column table name span).children.flatMap
          (depthFaults limit (.expr (.column table name span) :: above)) = [] := by
        simp [Expr.children]
      exact limits_nested (free ▸ Limits.same _)
  | number | string | boolean | null => exact limits_nested (Limits.same _)
  | binary op left right span ihLeft ihRight =>
      rw [exprAt, exprAt]
      refine limits_nested ?_
      have first := ihLeft (level + 1) (.expr (.binary op left right span) :: above)
      have second := ihRight (level + 1) (.expr (.binary op left right span) :: above)
      rw [countP_cons_expr] at first second
      rw [Expr.children, List.flatMap_cons, List.flatMap_singleton]
      exact first.bind fun _ => second.map
  | not operand span ih =>
      rw [exprAt, exprAt]
      refine limits_nested ?_
      have below := ih (level + 1) (.expr (.not operand span) :: above)
      rw [countP_cons_expr] at below
      rw [Expr.children, List.flatMap_singleton]
      exact below.map
  | isNull operand negated span ih =>
      rw [exprAt, exprAt]
      refine limits_nested ?_
      have below := ih (level + 1) (.expr (.isNull operand negated span) :: above)
      rw [countP_cons_expr] at below
      rw [Expr.children, List.flatMap_singleton]
      exact below.map

variable (clear : above.countP isExpr = 0)

include clear

/-- The count starts anew at an expression that stands in no other one. -/
theorem limits_expr (e : Expr) :
    Limits ((style.withLimit none).expr e) ((style.withLimit (some limit)).expr e)
      ((Node.expr e).depthFaults limit above) := by
  have root := @limits_exprAt style limit e 0 above
  rwa [clear] at root

theorem limits_columnDefinition (column : ColumnDefinition) :
    Limits ((style.withLimit none).columnDefinition column)
      ((style.withLimit (some limit)).columnDefinition column)
      ((Node.columnDefinition column).depthFaults limit above) := by
  have inside : (Node.columnDefinition column :: above).countP isExpr = 0 :=
    (countP_cons_of_not_expr rfl).trans clear
  rw [depthFaults_of_not_expr rfl, children, List.flatMap_map]
  exact (Limits.same _).bind fun _ => (Limits.optional (limits_expr inside) _).map

theorem limits_constraint (c : Constraint) :
    Limits ((style.withLimit none).constraint c) ((style.withLimit (some limit)).constraint c)
      ((Node.constraint c).depthFaults limit above) := by
  have inside : (Node.constraint c :: above).countP isExpr = 0 :=
    (countP_cons_of_not_expr rfl).trans clear
  have named : (c.name.toList.map Node.tableName).flatMap
      (depthFaults limit (.constraint c :: above)) = [] := by simp
  rw [depthFaults_of_not_expr rfl, children, List.flatMap_append, named, List.nil_append]
  obtain ⟨name, body, span⟩ := c
  cases body with
  | check condition =>
      rw [ConstraintBody.children, List.flatMap_singleton]
      exact (Limits.same _).bind fun _ => (limits_expr inside condition).map
  | foreignKey key =>
      have free : (ConstraintBody.foreignKey key).children.flatMap
          (depthFaults limit (.constraint ⟨name, .foreignKey key, span⟩ :: above)) = [] := by
        simp [ConstraintBody.children]
      exact free ▸ Limits.same _
  | primaryKey columns | unique columns =>
      rw [ConstraintBody.children, List.flatMap_singleton, depthFaults_columnList]
      exact Limits.same _
  | drop d => exact Limits.same _

theorem limits_tableElement (element : TableElement) :
    Limits ((style.withLimit none).tableElement element)
      ((style.withLimit (some limit)).tableElement element)
      (element.node.depthFaults limit above) := by
  cases element with
  | column column => exact limits_columnDefinition clear column
  | constraint c => exact limits_constraint clear c
  | index index =>
      rw [TableElement.node, depthFaults_indexConstraint]
      exact Limits.same _

theorem limits_alterAction (action : AlterAction) :
    Limits ((style.withLimit none).alterAction action)
      ((style.withLimit (some limit)).alterAction action)
      (action.node?.toList.flatMap (depthFaults limit above)) := by
  cases action with
  | addConstraint c =>
      rw [AlterAction.node?, Option.toList_some, List.flatMap_singleton]
      exact (limits_constraint clear c).map
  | dropConstraint c =>
      rw [AlterAction.node?, Option.toList_some, List.flatMap_singleton]
      exact limits_constraint clear c
  | addColumn column =>
      rw [AlterAction.node?, Option.toList_some, List.flatMap_singleton]
      exact (limits_columnDefinition clear column).map
  | dropColumn column existence => exact Limits.same _

theorem limits_createTable (create : CreateTable) :
    Limits ((style.withLimit none).createTable create)
      ((style.withLimit (some limit)).createTable create)
      ((Node.statement (.createTable create)).depthFaults limit above) := by
  have inside : (Node.statement (.createTable create) :: above).countP isExpr = 0 :=
    (countP_cons_of_not_expr rfl).trans clear
  have stored : (create.storageFormat.toList.map Node.storageFormat).flatMap
      (depthFaults limit (.statement (.createTable create) :: above)) = [] := by simp
  rw [depthFaults_of_not_expr rfl, children, Statement.children, List.flatMap_cons,
    List.flatMap_append, List.flatMap_map, depthFaults_tableName, stored]
  -- the storage format comes after the elements and holds no expression
  refine Limits.refuse ?_
  refine (Limits.same _).bind fun _ => ?_
  exact (Limits.mapM (limits_tableElement inside) _).bind fun _ => Limits.same _

theorem limits_alterTable (alter : AlterTable) :
    Limits ((style.withLimit none).alterTable alter)
      ((style.withLimit (some limit)).alterTable alter)
      ((Node.statement (.alterTable alter)).depthFaults limit above) := by
  have inside : (Node.statement (.alterTable alter) :: above).countP isExpr = 0 :=
    (countP_cons_of_not_expr rfl).trans clear
  rw [depthFaults_of_not_expr rfl, children, Statement.children, List.flatMap_cons,
    depthFaults_tableName, List.filterMap_eq_flatMap_toList, List.flatMap_assoc]
  refine Limits.refuse ?_
  refine (Limits.same _).bind fun _ => ?_
  exact (Limits.mapM (limits_alterAction inside) _).map

theorem limits_statement (s : Statement) :
    Limits ((style.withLimit none).statement s) ((style.withLimit (some limit)).statement s)
      ((Node.statement s).depthFaults limit above) := by
  cases s with
  | createIndex create =>
      have free : (Node.statement (.createIndex create)).depthFaults limit above = [] := by
        refine depthFaults_eq_nil rfl ?_
        simp only [children, Statement.children, List.forall_mem_cons, depthFaults_tableName,
          true_and]
        exact fun child mem => depthFaults_index mem
      rw [free]
      exact Limits.same _
  | dropIndex drop | dropTable drop =>
      rw [depthFaults_eq_nil rfl (by simp [children, Statement.children])]
      exact Limits.same _
  | createTable create => exact limits_createTable clear create
  | alterTable alter => exact limits_alterTable clear alter

/-- A limit stops rendering at the first expression that lies too deep, and otherwise does
    nothing. -/
theorem limits_render (node : Node) :
    Limits ((style.withLimit none).render node) ((style.withLimit (some limit)).render node)
      (node.depthFaults limit above) := by
  cases node with
  | expr e => exact limits_expr clear e
  | columnDefinition column => exact limits_columnDefinition clear column
  | constraint c => exact limits_constraint clear c
  | statement s => exact limits_statement clear s
  | tableName table =>
      rw [depthFaults_tableName]
      exact Limits.same _
  | columnList columns =>
      rw [depthFaults_columnList]
      exact Limits.same _
  | indexColumn column =>
      rw [depthFaults_indexColumn]
      exact Limits.same _
  | indexColumnList columns =>
      rw [depthFaults_indexColumnList]
      exact Limits.same _
  | storageFormat storage =>
      rw [depthFaults_storageFormat]
      exact Limits.same _
  | indexConstraint index =>
      rw [depthFaults_indexConstraint]
      exact Limits.same _

end Style

end Steps

/-! ## Writers in use -/

namespace Writer

/-- What a writer can be asked to render. -/
inductive Call where
  | node (node : Node)
  | script (script : Script)
  deriving Repr, DecidableEq

/-- The writer after a call, whether the call fails or not. -/
def after (writer : Writer) : Call → Writer
  | .node node => (writer.generate node).2
  | .script script => (writer.generateScript script).2

/-- The writer after calls that are made one after another. -/
def afterAll (writer : Writer) (calls : List Call) : Writer :=
  calls.foldl after writer

theorem style_after (writer : Writer) (call : Call) : (writer.after call).style = writer.style := by
  cases call with
  | node node => exact (take_eq (writes_node node)).2
  | script script => exact (take_eq (writes_script script)).2

/-- No call changes the style. -/
theorem style_afterAll (writer : Writer) (calls : List Call) :
    (writer.afterAll calls).style = writer.style := by
  induction calls generalizing writer with
  | nil => rfl
  | cons call rest ih => exact (ih (writer.after call)).trans (style_after writer call)

end Writer

/-- The limit of depth is exact, and a writer does not remember. A writer with a limit, after any
    calls that succeeded or failed, gives of a node that can be rendered the same text as without a
    limit exactly if every expression of the node has fewer expressions above it than the limit.
    Otherwise the error is about the first expression of the walk with exactly as many expressions
    above it as the limit. -/
theorem depth_limit_exact {writer : Writer} {limit : Nat}
    (limited : writer.style.maxDepth = some limit) (calls : List Writer.Call) {node : Node}
    {text : String}
    (rendered : (({ style := { writer.style with maxDepth := none } } : Writer).generate node).1
      = .ok text) :
    let result := ((writer.afterAll calls).generate node).1
    (result = .ok text ↔
      ∀ entry ∈ node.ancestry [], entry.2.isExpr → entry.1.countP Node.isExpr < limit) ∧
    (result ≠ .ok text → ∃ entry,
      (node.ancestry []).find?
        (fun entry => entry.2.isExpr && entry.1.countP Node.isExpr == limit) = some entry ∧
      result = .error ⟨entry.2.kind, .tooDeep limit⟩) ∧
    (node.ancestry []).map Prod.snd = node.dfs := by
  intro result
  have free : (writer.style.withLimit none).render node = .ok text :=
    (Writer.generate_eq _ node).symm.trans rendered
  have sameStyle : writer.style.withLimit (some limit) = writer.style := by
    rw [Style.withLimit, ← limited]
  have isResult : result = ((node.ancestry []).find? fun entry =>
      entry.2.isExpr && entry.1.countP Node.isExpr == limit).elim (.ok text)
        fun entry => .error ⟨entry.2.kind, .tooDeep limit⟩ := by
    have stops := @Style.limits_render writer.style limit [] rfl node text free
    rw [sameStyle, Node.depthFaults, List.head?_map, List.head?_filter,
      Node.find?_tooDeep (Nat.zero_le limit)] at stops
    have written := Writer.generate_eq (writer.afterAll calls) node
    rw [Writer.style_afterAll, stops] at written
    exact written.trans (Option.elim_map ..)
  have noneDeep : ((node.ancestry []).find? fun entry =>
      entry.2.isExpr && entry.1.countP Node.isExpr == limit) = none ↔
        ∀ entry ∈ node.ancestry [], entry.2.isExpr → entry.1.countP Node.isExpr < limit := by
    rw [← Node.find?_tooDeep (Nat.zero_le limit), List.find?_eq_none]
    simp only [Bool.and_eq_true, decide_eq_true_eq, not_and, Nat.not_le]
  cases found : (node.ancestry []).find? fun entry =>
      entry.2.isExpr && entry.1.countP Node.isExpr == limit with
  | none =>
      rw [found] at isResult noneDeep
      exact ⟨iff_of_true isResult (noneDeep.mp rfl), fun differs => absurd isResult differs,
        node.map_snd_ancestry []⟩
  | some entry =>
      rw [found] at isResult noneDeep
      have fails : result ≠ .ok text := by
        rw [isResult]
        exact nofun
      have tooDeep : ¬∀ entry ∈ node.ancestry [],
          entry.2.isExpr → entry.1.countP Node.isExpr < limit :=
        fun all => Option.some_ne_none entry (noneDeep.mpr all)
      exact ⟨iff_of_false fails tooDeep, fun _ => ⟨entry, rfl, isResult⟩,
        node.map_snd_ancestry []⟩

/-- A table with a default and a condition, given to a writer that has failed at it before. The
    default is no part of what counts for the condition, and the operand of `NOT` is the first
    expression with another one above it. -/
theorem depth_limit_exact_check :
    let default : ColumnDefinition := ⟨.regular "a", .int, false, some (.number "0" {}), {}⟩
    let condition : Expr := .not (.isNull (.column none (.regular "b") {}) false {}) {}
    let table : Node := .statement (.createTable ⟨⟨none, .regular "t", {}⟩, .noCondition,
      [.column default, .constraint ⟨none, .check condition, {}⟩], none, {}⟩)
    let writer : Writer := { style := { maxDepth := some 1 }, output := "DROP", depth := 1 }
    let calls : List Writer.Call := [.node table, .node (.columnDefinition default)]
    writer.style.maxDepth = some 1 ∧
      (({ style := { writer.style with maxDepth := none } } : Writer).generate table).1
        = .ok "CREATE TABLE t (a INT DEFAULT 0, CHECK (NOT b IS NULL))" ∧
      ((writer.afterAll calls).generate table).1 = .error ⟨.isNull, .tooDeep 1⟩ := by
  intro default condition table writer calls
  have rendered : (({ style := { writer.style with maxDepth := none } } : Writer).generate table).1
      = .ok "CREATE TABLE t (a INT DEFAULT 0, CHECK (NOT b IS NULL))" :=
    (Writer.generate_eq _ table).trans (by decide +kernel)
  have first : ((table.ancestry []).find? fun entry =>
      entry.2.isExpr && entry.1.countP Node.isExpr == 1).map (·.2.kind) = some .isNull := by
    simp [table, default, condition, Node.ancestry_eq, Node.children, Statement.children,
      TableElement.node, ConstraintBody.children, Expr.children, Node.isExpr, Node.expr?,
      List.countP_cons, Node.kind, Expr.kind]
  obtain ⟨entry, found, isNull⟩ := Option.map_eq_some_iff.mp first
  obtain ⟨whole, fails, -⟩ := depth_limit_exact rfl calls rendered
  have differs : ((writer.afterAll calls).generate table).1
      ≠ .ok "CREATE TABLE t (a INT DEFAULT 0, CHECK (NOT b IS NULL))" := by
    intro same
    have deep := List.find?_some found
    rw [Bool.and_eq_true, beq_iff_eq] at deep
    have shallow := whole.mp same entry (List.mem_of_find?_eq_some found) deep.1
    exact absurd deep.2 shallow.ne
  obtain ⟨other, foundOther, failed⟩ := fails differs
  obtain rfl : entry = other := Option.some.inj (found.symm.trans foundOther)
  exact ⟨rfl, rendered, isNull ▸ failed⟩

end DdlTree
