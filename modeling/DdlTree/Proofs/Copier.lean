import DdlTree.Copy
import DdlTree.Proofs.Outcome
import DdlTree.Proofs.Tree
import Mathlib.Data.List.Perm.Basic
import Mathlib.Data.List.TakeWhile

/-! # Copiers can be used again

What a copy does to the copier that makes it. The copier comes back to the depth where it was,
whether the copy succeeds or fails, and what it has counted before does not matter to the outcome.
Its count grows by the nodes that it finished: it takes the nodes in postorder, and stops at the
first one that cannot be copied.
-/

namespace DdlTree

/-- A node and all that lies below it, each node after its children and with the number of nodes
    above it, if there are `level` nodes above the first. -/
def Node.postorder (level : Nat) (node : Node) : List (Nat × Node) :=
  (node.children.attach.flatMap fun ⟨child, _⟩ => child.postorder (level + 1)) ++ [(level, node)]
termination_by node.size
decreasing_by exact Node.size_lt_of_mem_children ‹_›

/-- Whether a node is copied where there are so many nodes above it. -/
def Session.copies (session : Session) (entry : Nat × Node) : Bool :=
  (entry.2.copy { session, depth := entry.1 }).1.isOk

/-- The nodes whose copies are complete when the copy of a tree succeeds or fails. A copier builds
    nodes in postorder, so these come before the first node that is not copied. -/
def Session.finished (session : Session) (node : Node) : List Node :=
  ((node.postorder 0).takeWhile session.copies).map Prod.snd

/-- Copy one node after another. A copy that fails does not keep the copier from the next. -/
def Copier.copyEach (copier : Copier) : List Node → List (Except CopyError Node) × Copier
  | [] => ([], copier)
  | node :: rest =>
      let (outcome, after) := node.copy copier
      let (outcomes, last) := after.copyEach rest
      (outcome :: outcomes, last)

namespace Node

theorem postorder_eq (level : Nat) (node : Node) :
    node.postorder level = node.children.flatMap (postorder (level + 1)) ++ [(level, node)] := by
  rw [postorder]
  simp only [List.flatMap_subtype, List.unattach_attach]

/-- Both orders have the same nodes. -/
theorem postorder_perm (level : Nat) (node : Node) :
    ((node.postorder level).map Prod.snd).Perm node.preorder := by
  rw [postorder_eq, preorder_eq, List.map_append, List.map_flatMap]
  refine List.perm_append_comm.trans (List.Perm.cons node ?_)
  exact List.Perm.flatMap_left node.children fun child mem => postorder_perm (level + 1) child
termination_by node.size
decreasing_by exact size_lt_of_mem_children mem

/-- No node has fewer nodes above it than the first. -/
theorem le_of_mem_postorder {level : Nat} {node : Node} {entry : Nat × Node}
    (mem : entry ∈ node.postorder level) : level ≤ entry.1 := by
  rw [postorder_eq, List.mem_append, List.mem_flatMap] at mem
  rcases mem with ⟨child, isChild, below⟩ | own
  · exact Nat.le_of_succ_le (le_of_mem_postorder below)
  · rw [List.mem_singleton.mp own]
termination_by node.size
decreasing_by exact size_lt_of_mem_children isChild

theorem length_postorder (level : Nat) (node : Node) :
    (node.postorder level).length = node.dfs.length := by
  rw [dfs_eq_preorder, ← (postorder_perm level node).length_eq, List.length_map]

end Node

/-! ## Steps of a copier -/

namespace CopyM

variable {α β : Type}

/-- A step that copies `nodes` from left to right. Its outcome does not depend on the count, it
    succeeds if all that lies in the nodes is copied, and it adds to the count what comes before the
    first node that is not. The depth is restored. -/
def Tallies (step : CopyM α) (nodes : List Node) : Prop :=
  ∀ (session : Session) (level : Nat), ∃ outcome,
    (outcome.isOk ↔ ∀ entry ∈ nodes.flatMap (Node.postorder level), session.copies entry) ∧
      ∀ copied, step ⟨session, level, copied⟩ = (outcome, ⟨session, level, copied +
        ((nodes.flatMap (Node.postorder level)).takeWhile session.copies).length⟩)

/-- Nothing passes after a part of a list that does not pass as a whole. -/
private theorem takeWhile_append_of_not {p : α → Bool} {first : List α}
    (fails : ¬∀ item ∈ first, p item) (second : List α) :
    (first ++ second).takeWhile p = first.takeWhile p := by
  rw [List.takeWhile_append, if_neg]
  intro whole
  have all : first.takeWhile p = first := (List.takeWhile_prefix p).eq_of_length whole
  exact fails (List.takeWhile_eq_self_iff.mp all)

theorem bind_of_ok {first : CopyM α} {next : α → CopyM β} {copier after : Copier} {value : α}
    (run : first copier = (.ok value, after)) : (first >>= next) copier = next value after := by
  have both : (first >>= next) copier = CopyM.bind first next copier := rfl
  rw [both, CopyM.bind, run]

theorem bind_of_error {first : CopyM α} {next : α → CopyM β} {copier after : Copier}
    {error : CopyError} (run : first copier = (.error error, after)) :
    (first >>= next) copier = (.error error, after) := by
  have both : (first >>= next) copier = CopyM.bind first next copier := rfl
  rw [both, CopyM.bind, run]

/-- What is done with the value of a step does not matter to the copier. -/
theorem map_run (step : CopyM α) (f : α → β) (copier : Copier) :
    (step >>= fun value => Pure.pure (f value)) copier
      = ((step copier).1.map f, (step copier).2) := by
  cases run : step copier with
  | mk outcome after => cases outcome with
      | error error => rw [bind_of_error run, map_error]
      | ok value => rw [bind_of_ok run, map_ok]; rfl

theorem isOk_map (step : CopyM α) (f : α → β) (copier : Copier) :
    ((step >>= fun value => Pure.pure (f value)) copier).1.isOk = (step copier).1.isOk := by
  rw [map_run]
  cases (step copier).1 <;> rfl

section Node

variable {kind : NodeKind} {parts : CopyM β} {build : Session → β → Except BuildError α}
  {session : Session} {level copied count : Nat} {value : β}

theorem node_of_limit {limit : Nat} (given : session.maxCopyDepth = some limit)
    (reached : limit ≤ level) :
    node kind parts build ⟨session, level, copied⟩
      = (.error ⟨kind, .tooDeep limit⟩, ⟨session, level, copied⟩) := by
  have refused : session.maxCopyDepth.filter (· ≤ level) = some limit := by
    simp [given, reached]
  rw [node, refused]

variable (below : ∀ limit, session.maxCopyDepth = some limit → level < limit)

include below

private theorem not_refused : session.maxCopyDepth.filter (· ≤ level) = none := by
  rw [Option.filter_eq_none_iff]
  intro limit given
  simpa using below limit given

theorem node_of_parts_error {error : CopyError}
    (run : parts ⟨session, level + 1, copied⟩ = (.error error, ⟨session, level + 1, count⟩)) :
    node kind parts build ⟨session, level, copied⟩ = (.error error, ⟨session, level, count⟩) := by
  simp only [node, not_refused below, run, Nat.add_sub_cancel]

theorem node_of_refused {error : BuildError}
    (run : parts ⟨session, level + 1, copied⟩ = (.ok value, ⟨session, level + 1, count⟩))
    (refused : build session value = .error error) :
    node kind parts build ⟨session, level, copied⟩
      = (.error ⟨kind, .refused error⟩, ⟨session, level, count⟩) := by
  simp only [node, not_refused below, run, refused, Nat.add_sub_cancel]

theorem node_of_built {built : α}
    (run : parts ⟨session, level + 1, copied⟩ = (.ok value, ⟨session, level + 1, count⟩))
    (isBuilt : build session value = .ok built) :
    node kind parts build ⟨session, level, copied⟩
      = (.ok built, ⟨session, level, count + 1⟩) := by
  simp only [node, not_refused below, run, isBuilt, Nat.add_sub_cancel]

end Node

end CopyM

/-- A node that lies as deep as the limit is not copied. -/
theorem Session.copies_of_limit {session : Session} {limit : Nat} {entry : Nat × Node}
    (given : session.maxCopyDepth = some limit) (reached : limit ≤ entry.1) :
    session.copies entry = false := by
  obtain ⟨level, node⟩ := entry
  have refused {α β : Type} (kind : NodeKind) (parts : CopyM β)
      (build : Session → β → Except BuildError α) :
      (CopyM.node kind parts build ⟨session, level, 0⟩).1.isOk = false := by
    rw [CopyM.node_of_limit given reached, isOk_error]
  rw [copies]
  cases node with
  | expr e =>
      refine (CopyM.isOk_map _ _ _).trans ?_
      cases e <;> (rw [Expr.copy]; exact refused _ _ _)
  | statement s =>
      refine (CopyM.isOk_map _ _ _).trans ?_
      cases s <;> exact (CopyM.isOk_map _ _ _).trans (refused _ _ _)
  | _ => exact (CopyM.isOk_map _ _ _).trans (refused _ _ _)

/-- Nothing of a tree that lies as deep as the limit is copied. -/
theorem Session.copies_of_limit_postorder {session : Session} {limit level : Nat} (node : Node)
    (given : session.maxCopyDepth = some limit) (reached : limit ≤ level) :
    ∀ entry ∈ node.postorder level, session.copies entry = false := by
  intro entry mem
  exact copies_of_limit given (reached.trans (Node.le_of_mem_postorder mem))

theorem Session.takeWhile_of_limit {session : Session} {limit level : Nat} (node : Node)
    (given : session.maxCopyDepth = some limit) (reached : limit ≤ level) :
    (node.postorder level).takeWhile session.copies = [] := by
  rw [List.takeWhile_eq_nil_iff]
  intro nonempty
  rw [copies_of_limit_postorder node given reached _ (List.get_mem _ _)]
  exact Bool.false_ne_true

namespace CopyM

variable {α β : Type}

theorem tallies_pure (value : α) : Tallies (Pure.pure value) [] := by
  intro session level
  exact ⟨.ok value, by simp, fun _ => rfl⟩

theorem Tallies.bind {first : CopyM α} {next : α → CopyM β} {nodes others : List Node}
    (firstTally : Tallies first nodes) (nextTally : ∀ value, Tallies (next value) others) :
    Tallies (first >>= next) (nodes ++ others) := by
  intro session level
  obtain ⟨outcome, isOk, run⟩ := firstTally session level
  rw [List.flatMap_append, List.forall_mem_append, ← isOk]
  cases outcome with
  | error error =>
      refine ⟨.error error, by simp, fun copied => ?_⟩
      rw [bind_of_error (run copied), takeWhile_append_of_not (isOk.not.mp (by simp))]
  | ok value =>
      obtain ⟨outcome, isOkNext, runNext⟩ := nextTally value session level
      have passed := isOk.mp (isOk_ok value)
      refine ⟨outcome, by rw [isOkNext, isOk_ok, eq_self, true_and], fun copied => ?_⟩
      rw [bind_of_ok (run copied), runNext, List.takeWhile_append_of_pos passed,
        List.takeWhile_eq_self_iff.mpr passed, List.length_append, Nat.add_assoc]

theorem Tallies.map {step : CopyM α} {nodes : List Node} (f : α → β) (tally : Tallies step nodes) :
    Tallies (step >>= fun part => Pure.pure (f part)) nodes := by
  have both : Tallies (step >>= fun part => Pure.pure (f part)) (nodes ++ []) :=
    tally.bind fun part => tallies_pure (f part)
  rwa [List.append_nil] at both

theorem tallies_optional {copy : α → CopyM α} {wrap : α → Node} {part? : Option α}
    (tally : ∀ part, Tallies (copy part) [wrap part]) :
    Tallies (optional copy part?) (part?.toList.map wrap) := by
  cases part? with
  | none => exact tallies_pure none
  | some part => exact (tally part).map some

theorem tallies_each {copy : α → CopyM α} {nodes : α → List Node} {parts : List α}
    (tally : ∀ part, Tallies (copy part) (nodes part)) :
    Tallies (each copy parts) (parts.flatMap nodes) := by
  induction parts with
  | nil => exact tallies_pure []
  | cons part rest ih => exact (tally part).bind fun first => ih.map (first :: ·)

/-- A node is counted once its children are, and only if it is copied. -/
theorem Tallies.node {parts : CopyM β} {build : Session → β → Except BuildError α} {node : Node}
    {kind : NodeKind} (partsTally : Tallies parts node.children)
    (same : ∀ copier, (node.copy copier).1.isOk = (CopyM.node kind parts build copier).1.isOk) :
    Tallies (CopyM.node kind parts build) [node] := by
  intro session level
  have own : session.copies (level, node)
      = (CopyM.node kind parts build ⟨session, level, 0⟩).1.isOk := same _
  rw [List.flatMap_singleton]
  by_cases below : ∀ limit, session.maxCopyDepth = some limit → level < limit
  · obtain ⟨outcome, isOk, run⟩ := partsTally session (level + 1)
    rw [Node.postorder_eq, List.forall_mem_append, List.forall_mem_singleton, ← isOk]
    cases outcome with
    | error error =>
        refine ⟨.error error, by simp, fun copied => ?_⟩
        rw [node_of_parts_error below (run copied),
          takeWhile_append_of_not (isOk.not.mp (by simp))]
    | ok value =>
        have children := isOk.mp (isOk_ok value)
        have whole := List.takeWhile_eq_self_iff.mpr children
        rw [List.takeWhile_append_of_pos children]
        cases result : build session value with
        | ok built =>
            rw [node_of_built below (run 0) result, isOk_ok] at own
            refine ⟨.ok built, by simp [own], fun copied => ?_⟩
            rw [node_of_built below (run copied) result, whole, List.takeWhile_cons_of_pos own]
            simp [Nat.add_assoc]
        | error error =>
            rw [node_of_refused below (run 0) result, isOk_error] at own
            refine ⟨.error ⟨kind, .refused error⟩, by simp [own], fun copied => ?_⟩
            rw [node_of_refused below (run copied) result, whole,
              List.takeWhile_cons_of_neg (by simp [own]), List.append_nil]
  · simp only [not_forall, Nat.not_lt] at below
    obtain ⟨limit, given, reached⟩ := below
    have last : (level, node) ∈ node.postorder level := by
      rw [Node.postorder_eq]
      exact List.mem_append_right _ (List.mem_singleton_self _)
    have fails := Session.copies_of_limit_postorder node given reached
    refine ⟨.error ⟨kind, .tooDeep limit⟩, ?_, fun copied => ?_⟩
    · exact ⟨nofun, fun all => absurd (all _ last) (by simp [fails _ last])⟩
    · rw [node_of_limit given reached, Session.takeWhile_of_limit node given reached,
        List.length_nil, Nat.add_zero]

theorem Tallies.leaf {build : Session → Except BuildError α} {node : Node} {kind : NodeKind}
    (childless : node.children = [])
    (same : ∀ copier, (node.copy copier).1.isOk = (CopyM.leaf kind build copier).1.isOk) :
    Tallies (CopyM.leaf kind build) [node] :=
  .node (by rw [childless]; exact tallies_pure ()) same

end CopyM

/-! ## Copies of nodes -/

section Nodes

open CopyM

theorem TableName.tallies (table : TableName) : Tallies table.copy [.tableName table] :=
  .leaf rfl (isOk_map _ _)

theorem ColumnList.tallies (list : ColumnList) : Tallies list.copy [.columnList list] :=
  .leaf rfl (isOk_map _ _)

theorem Expr.tallies (expr : Expr) : Tallies expr.copy [.expr expr] := by
  have same (copier : Copier) : ((Node.expr expr).copy copier).1.isOk = (expr.copy copier).1.isOk :=
    isOk_map _ _ _
  induction expr with
  | column table name span => exact .node (tallies_optional TableName.tallies) same
  | number | string | boolean | null => exact .leaf rfl same
  | binary op left right span ihLeft ihRight =>
      have leftTally := ihLeft (isOk_map _ _)
      have rightTally := ihRight (isOk_map _ _)
      exact .node (leftTally.bind fun left => rightTally.map (left, ·)) same
  | not operand span ih => exact .node (ih (isOk_map _ _)) same
  | isNull operand negated span ih => exact .node (ih (isOk_map _ _)) same

theorem IndexColumn.tallies (column : IndexColumn) : Tallies column.copy [.indexColumn column] :=
  .node (tallies_optional TableName.tallies) (isOk_map _ _)

theorem IndexColumnList.tallies (list : IndexColumnList) :
    Tallies list.copy [.indexColumnList list] := by
  have columns : Tallies (each IndexColumn.copy list.columns)
      (Node.indexColumnList list).children := by
    rw [Node.children, List.map_eq_flatMap]
    exact tallies_each IndexColumn.tallies
  exact .node columns (isOk_map _ _)

theorem StorageFormat.tallies (storage : StorageFormat) :
    Tallies storage.copy [.storageFormat storage] :=
  .leaf rfl (isOk_map _ _)

theorem ColumnDefinition.tallies (column : ColumnDefinition) :
    Tallies column.copy [.columnDefinition column] :=
  .node (tallies_optional Expr.tallies) (isOk_map _ _)

theorem ConstraintBody.tallies (body : ConstraintBody) : Tallies body.copy body.children := by
  cases body with
  | primaryKey columns | unique columns => exact columns.tallies.map _
  | check condition => exact condition.tallies.map _
  | foreignKey key =>
      exact key.columns.tallies.bind fun _ => key.refTable.tallies.bind fun _ =>
        (tallies_optional ColumnList.tallies).map _
  | drop d => exact tallies_pure _

theorem Constraint.tallies (constraint : Constraint) :
    Tallies constraint.copy [.constraint constraint] := by
  have parts : Tallies (do
      let name ← CopyM.optional TableName.copy constraint.name
      let body ← constraint.body.copy
      return (name, body)) (Node.constraint constraint).children :=
    (tallies_optional TableName.tallies).bind fun name => constraint.body.tallies.map (name, ·)
  rw [Constraint.copy]
  exact .node parts (isOk_map _ _)

theorem IndexDefinition.tallies (index : IndexDefinition) : Tallies index.copy index.children :=
  index.columns.tallies.bind fun _ => (tallies_optional StorageFormat.tallies).map _

theorem IndexConstraint.tallies (constraint : IndexConstraint) :
    Tallies constraint.copy [.indexConstraint constraint] :=
  .node constraint.index.tallies (isOk_map _ _)

/-- A statement is copied by the copy of its own type. -/
private theorem isOk_statement {α : Type} (step : CopyM α) (wrap : α → Statement)
    (copier : Copier) :
    ((do return Node.statement (← (do return wrap (← step)))) copier).1.isOk
      = (step copier).1.isOk :=
  (isOk_map _ _ _).trans (isOk_map _ _ _)

theorem CreateIndex.tallies (create : CreateIndex) :
    Tallies create.copy [.statement (.createIndex create)] :=
  .node (create.name.tallies.bind fun _ => create.table.tallies.bind fun _ =>
    create.index.tallies.map _) (isOk_statement _ _)

theorem DropIndex.tallies (drop : DropIndex) :
    Tallies drop.copy [.statement (.dropIndex drop)] :=
  .node drop.name.tallies (isOk_statement _ _)

theorem TableElement.tallies (element : TableElement) : Tallies element.copy [element.node] := by
  cases element with
  | column column => exact column.tallies.map _
  | constraint constraint => exact constraint.tallies.map _
  | index index => exact index.tallies.map _

theorem CreateTable.tallies (create : CreateTable) :
    Tallies create.copy [.statement (.createTable create)] := by
  have elements : Tallies (each TableElement.copy create.elements)
      (create.elements.map TableElement.node) := by
    rw [List.map_eq_flatMap]
    exact tallies_each TableElement.tallies
  have parts : Tallies (do
      let name ← create.name.copy
      let elements ← each TableElement.copy create.elements
      let storageFormat ← CopyM.optional StorageFormat.copy create.storageFormat
      return (name, elements, storageFormat)) (Node.statement (.createTable create)).children :=
    create.name.tallies.bind fun _ => elements.bind fun _ =>
      (tallies_optional StorageFormat.tallies).map _
  rw [CreateTable.copy]
  exact .node parts (isOk_statement _ _)

theorem DropTable.tallies (drop : DropTable) :
    Tallies drop.copy [.statement (.dropTable drop)] :=
  .node drop.name.tallies (isOk_statement _ _)

theorem AlterAction.tallies (action : AlterAction) :
    Tallies action.copy action.node?.toList := by
  cases action with
  | addConstraint constraint | dropConstraint constraint => exact constraint.tallies.map _
  | addColumn column => exact column.tallies.map _
  | dropColumn column existence => exact tallies_pure _

theorem AlterTable.tallies (alter : AlterTable) :
    Tallies alter.copy [.statement (.alterTable alter)] := by
  have actions : Tallies (each AlterAction.copy alter.actions)
      (alter.actions.filterMap AlterAction.node?) := by
    rw [List.filterMap_eq_flatMap_toList]
    exact tallies_each AlterAction.tallies
  have parts : Tallies (do
      let name ← alter.name.copy
      let actions ← each AlterAction.copy alter.actions
      return (name, actions)) (Node.statement (.alterTable alter)).children :=
    alter.name.tallies.bind fun name => actions.map (name, ·)
  rw [AlterTable.copy]
  exact .node parts (isOk_statement _ _)

theorem Statement.tallies (statement : Statement) :
    Tallies statement.copy [.statement statement] := by
  cases statement with
  | createIndex create => exact create.tallies.map _
  | dropIndex drop => exact drop.tallies.map _
  | createTable create => exact create.tallies.map _
  | dropTable drop => exact drop.tallies.map _
  | alterTable alter => exact alter.tallies.map _

theorem Node.tallies (node : Node) : Tallies node.copy [node] := by
  cases node with
  | tableName name => exact name.tallies.map _
  | expr e => exact e.tallies.map _
  | columnList columns => exact columns.tallies.map _
  | indexColumn column => exact column.tallies.map _
  | indexColumnList columns => exact columns.tallies.map _
  | storageFormat storage => exact storage.tallies.map _
  | columnDefinition column => exact column.tallies.map _
  | constraint c => exact c.tallies.map _
  | indexConstraint index => exact index.tallies.map _
  | statement s => exact s.tallies.map _

end Nodes

/-! ## Copies one after another -/

/-- A copier that is back at the top makes the copy that a new one would make. -/
theorem Node.copy_run (session : Session) (copied : Nat) (node : Node) :
    node.copy ⟨session, 0, copied⟩
      = (session.copy node, ⟨session, 0, copied + (session.finished node).length⟩) := by
  obtain ⟨outcome, -, run⟩ := node.tallies session 0
  rw [List.flatMap_singleton] at run
  rw [Session.copy, run, run, Session.finished, List.length_map]

/-- Copies one after another, failed ones among them, are the copies of new copiers. -/
theorem Copier.copyEach_run (session : Session) (copied : Nat) (nodes : List Node) :
    copyEach ⟨session, 0, copied⟩ nodes = (nodes.map session.copy,
      ⟨session, 0, copied + (nodes.flatMap session.finished).length⟩) := by
  induction nodes generalizing copied with
  | nil => rfl
  | cons node rest ih =>
      simp only [copyEach, node.copy_run, ih, List.map_cons, List.flatMap_cons, List.length_append,
        Nat.add_assoc]

namespace Session

/-- What is finished lies in the tree, and no node of it is finished twice. -/
theorem finished_subperm (session : Session) (node : Node) :
    (session.finished node).Subperm node.dfs := by
  have within : (session.finished node).Sublist ((node.postorder 0).map Prod.snd) :=
    (List.takeWhile_sublist _).map _
  rw [node.dfs_eq_preorder]
  exact within.subperm.trans (node.postorder_perm 0).subperm

/-- All of a tree is finished exactly if the tree is copied. -/
theorem length_finished_eq_iff (session : Session) (node : Node) :
    (session.finished node).length = node.dfs.length ↔ (session.copy node).isOk := by
  obtain ⟨outcome, isOk, run⟩ := node.tallies session 0
  rw [List.flatMap_singleton] at isOk
  rw [copy, run, isOk, finished, List.length_map, ← node.length_postorder 0]
  constructor
  · intro whole
    exact List.takeWhile_eq_self_iff.mp ((List.takeWhile_prefix _).eq_of_length whole)
  · intro copied
    rw [List.takeWhile_eq_self_iff.mpr copied]

end Session

/-- A copier can be used again after anything. Whatever it has copied or failed to copy before, its
    next copy is the copy of a new one; its depth is back where it was; and its count grows by the
    nodes that it finished, which are all the nodes of the tree if the copy succeeds and fewer if it
    fails. -/
theorem copier_reusable (session : Session) (before : List Node) (node : Node) :
    let copier := (Copier.copyEach { session } before).2
    let (outcome, after) := node.copy copier
    outcome = session.copy node ∧ copier.depth = 0 ∧ after.depth = copier.depth ∧
      after.copied = copier.copied + (session.finished node).length ∧
      (session.finished node).Subperm node.dfs ∧
      match outcome with
      | .ok _ => (session.finished node).length = node.dfs.length
      | .error _ => (session.finished node).length < node.dfs.length := by
  have subperm := session.finished_subperm node
  have whole := session.length_finished_eq_iff node
  simp only [Copier.copyEach_run, node.copy_run, true_and]
  refine ⟨subperm, ?_⟩
  cases outcome : session.copy node with
  | ok copy =>
      rw [outcome] at whole
      exact whole.mpr rfl
  | error error =>
      rw [outcome] at whole
      exact Nat.lt_of_le_of_ne subperm.length_le (whole.not.mpr (by simp))

end DdlTree
