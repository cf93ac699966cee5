import DdlTree.Copy
import DdlTree.Proofs.EraseBuild

/-! # Copies without positions

A copier looks at positions only to put copies there. It makes the same copy of a tree without
positions, in the same number of steps, or fails at the same node for the same reason.
-/

namespace DdlTree

namespace CopyM

variable {α β γ δ : Type}

/-- A step that does to a copier what another step does, and whose outcome is that of the other step
    under `erase`. -/
def Mirrors (erase : α → β) (step : CopyM α) (erased : CopyM β) : Prop :=
  ∀ copier, erased copier = ((step copier).1.map erase, (step copier).2)

theorem mirrors_pure (erase : α → β) (value : α) :
    Mirrors erase (Pure.pure value) (Pure.pure (erase value)) := by
  intro copier
  rfl

theorem Mirrors.bind {erase : α → β} {eraseNext : γ → δ} {first : CopyM α} {first' : CopyM β}
    {next : α → CopyM γ} {next' : β → CopyM δ} (mirrors : Mirrors erase first first')
    (mirrorsNext : ∀ value, Mirrors eraseNext (next value) (next' (erase value))) :
    Mirrors eraseNext (first >>= next) (first' >>= next') := by
  intro copier
  have run := mirrors copier
  have steps : (first >>= next) copier = CopyM.bind first next copier := rfl
  have steps' : (first' >>= next') copier = CopyM.bind first' next' copier := rfl
  rw [steps, steps', CopyM.bind, CopyM.bind, run]
  cases outcome : first copier with
  | mk result after =>
      cases result with
      | error error => rfl
      | ok value => exact mirrorsNext value after

theorem Mirrors.map {erase : α → β} {eraseResult : γ → δ} {step : CopyM α} {step' : CopyM β}
    (mirrors : Mirrors erase step step') {f : α → γ} {f' : β → δ}
    (same : ∀ value, f' (erase value) = eraseResult (f value)) :
    Mirrors eraseResult (step >>= fun value => Pure.pure (f value))
      (step' >>= fun value => Pure.pure (f' value)) :=
  mirrors.bind fun value => by
    rw [same]
    exact mirrors_pure eraseResult (f value)

theorem mirrors_optional {copy : α → CopyM α} {erase : α → α}
    (mirrors : ∀ part, Mirrors erase (copy part) (copy (erase part))) (part? : Option α) :
    Mirrors (Option.map erase) (optional copy part?) (optional copy (part?.map erase)) := by
  cases part? with
  | none => exact mirrors_pure (Option.map erase) none
  | some part => exact (mirrors part).map fun _ => rfl

theorem mirrors_each {copy : α → CopyM α} {erase : α → α}
    (mirrors : ∀ part, Mirrors erase (copy part) (copy (erase part))) (parts : List α) :
    Mirrors (List.map erase) (each copy parts) (each copy (parts.map erase)) := by
  induction parts with
  | nil => exact mirrors_pure (List.map erase) []
  | cons part rest ih => exact (mirrors part).bind fun first => ih.map fun _ => rfl

theorem Mirrors.node {kind : NodeKind} {erase : α → β} {eraseNode : γ → δ} {parts : CopyM α}
    {parts' : CopyM β} {build : Session → α → Except BuildError γ}
    {build' : Session → β → Except BuildError δ} (mirrors : Mirrors erase parts parts')
    (built : ∀ session value, build' session (erase value) = (build session value).map eraseNode) :
    Mirrors eraseNode (CopyM.node kind parts build) (CopyM.node kind parts' build') := by
  intro copier
  have run := mirrors { copier with depth := copier.depth + 1 }
  simp only [CopyM.node, run]
  cases copier.session.maxCopyDepth.filter (· ≤ copier.depth) with
  | some limit => rfl
  | none =>
      cases parts { copier with depth := copier.depth + 1 } with
      | mk result after =>
          cases result with
          | error error => rfl
          | ok value =>
              simp only [map_ok, built]
              cases build copier.session value <;> rfl

theorem Mirrors.leaf {kind : NodeKind} {erase : α → β} {build : Session → Except BuildError α}
    {build' : Session → Except BuildError β}
    (built : ∀ session, build' session = (build session).map erase) :
    Mirrors erase (CopyM.leaf kind build) (CopyM.leaf kind build') :=
  .node (mirrors_pure id ()) fun session _ => built session

end CopyM

open CopyM

/-- What is built anew and then put at its position is built without one from erased parts. -/
private theorem placed_erase {α : Type} {built built' : Except BuildError α} {erase : α → α}
    {place place' : α → α} (same : built' = built.map erase)
    (places : ∀ value, place' (erase value) = erase (place value)) :
    (built' >>= fun value => Pure.pure (place' value))
      = (built >>= fun value => Pure.pure (place value)).map erase := by
  simp only [same, bind_map, map_bind, map_pure, places]

theorem TableName.mirrors (table : TableName) : Mirrors erase table.copy table.erase.copy := by
  rw [erase_eq]
  exact .leaf fun _ => placed_erase (map_erase_build _ _).symm fun _ => by simp [erase_eq]

theorem ColumnList.mirrors (list : ColumnList) : Mirrors erase list.copy list.erase.copy := by
  rw [erase_eq]
  exact .leaf fun _ => placed_erase (map_erase_build _).symm fun _ => by simp [erase_eq]

theorem Expr.erase_withSpan (span : Span) (expr : Expr) :
    (expr.withSpan span).erase = expr.erase := by
  cases expr <;> rfl

theorem Expr.withSpan_erase (expr : Expr) : expr.erase.withSpan {} = expr.erase := by
  cases expr <;> rfl

theorem Expr.mirrors (expr : Expr) : Mirrors erase expr.copy expr.erase.copy := by
  induction expr with
  | column table name span =>
      rw [erase_column, Expr.copy, Expr.copy]
      refine .node (mirrors_optional TableName.mirrors table) fun session table => ?_
      simp only [buildColumn_erase, map_map, withSpan_erase, erase_withSpan]
  | number literal span => exact .leaf fun _ => rfl
  | string value span => exact .leaf fun _ => rfl
  | boolean value span => exact .leaf fun _ => rfl
  | null span => exact .leaf fun _ => rfl
  | binary op left right span ihLeft ihRight =>
      have parts : Mirrors (Prod.map erase erase)
          (do return (← left.copy, ← right.copy))
          (do return (← left.erase.copy, ← right.erase.copy)) :=
        ihLeft.bind fun _ => ihRight.map fun _ => rfl
      rw [erase_binary, Expr.copy, Expr.copy]
      exact .node parts fun _ _ => rfl
  | not operand span ih => exact .node ih fun _ _ => rfl
  | isNull operand negated span ih => exact .node ih fun _ _ => rfl

theorem IndexColumn.mirrors (column : IndexColumn) :
    Mirrors erase column.copy column.erase.copy :=
  .node (mirrors_optional TableName.mirrors column.table) fun _ table =>
    placed_erase (build_erase table column.column column.ascending) fun _ => rfl

theorem IndexColumnList.mirrors (list : IndexColumnList) :
    Mirrors erase list.copy list.erase.copy :=
  .node (mirrors_each IndexColumn.mirrors list.columns) fun _ columns =>
    placed_erase (build_erase columns) fun _ => rfl

theorem StorageFormat.mirrors (storage : StorageFormat) :
    Mirrors erase storage.copy storage.erase.copy :=
  .leaf fun _ => placed_erase (map_erase_build _ _).symm fun _ => rfl

theorem ColumnDefinition.mirrors (column : ColumnDefinition) :
    Mirrors erase column.copy column.erase.copy :=
  .node (mirrors_optional Expr.mirrors column.defaultValue) fun _ value =>
    placed_erase (build_erase column.name column.dataType column.notNull value) fun _ => rfl

theorem ConstraintBody.mirrors (body : ConstraintBody) :
    Mirrors erase body.copy body.erase.copy := by
  cases body with
  | primaryKey columns | unique columns => exact columns.mirrors.map fun _ => rfl
  | check condition => exact condition.mirrors.map fun _ => rfl
  | foreignKey key =>
      exact key.columns.mirrors.bind fun _ => key.refTable.mirrors.bind fun _ =>
        (mirrors_optional ColumnList.mirrors key.refColumns).map fun _ => rfl
  | drop d => exact mirrors_pure erase (.drop d)

theorem Constraint.mirrors (constraint : Constraint) :
    Mirrors erase constraint.copy constraint.erase.copy := by
  have parts : Mirrors (Prod.map (Option.map TableName.erase) ConstraintBody.erase)
      (do return (← CopyM.optional TableName.copy constraint.name, ← constraint.body.copy))
      (do return (← CopyM.optional TableName.copy constraint.erase.name,
        ← constraint.erase.body.copy)) :=
    (mirrors_optional TableName.mirrors constraint.name).bind fun _ =>
      constraint.body.mirrors.map fun _ => rfl
  rw [Constraint.copy, Constraint.copy]
  exact .node parts fun _ (name, body) => placed_erase (build_erase name body) fun _ => rfl

theorem IndexDefinition.mirrors (index : IndexDefinition) :
    Mirrors erase index.copy index.erase.copy :=
  index.columns.mirrors.bind fun _ =>
    (mirrors_optional StorageFormat.mirrors index.storageFormat).map fun _ => rfl

theorem IndexConstraint.mirrors (constraint : IndexConstraint) :
    Mirrors erase constraint.copy constraint.erase.copy :=
  .node constraint.index.mirrors fun _ index =>
    placed_erase (build_erase constraint.name index) fun _ => rfl

theorem CreateIndex.mirrors (create : CreateIndex) :
    Mirrors erase create.copy create.erase.copy :=
  .node (create.name.mirrors.bind fun _ => create.table.mirrors.bind fun _ =>
    create.index.mirrors.map fun _ => rfl) fun _ create => build_erase create

theorem DropIndex.mirrors (drop : DropIndex) : Mirrors erase drop.copy drop.erase.copy :=
  .node drop.name.mirrors fun _ name => placed_erase (build_erase name drop.existence) fun _ => rfl

theorem TableElement.mirrors (element : TableElement) :
    Mirrors erase element.copy element.erase.copy := by
  cases element with
  | column c => exact c.mirrors.map fun _ => rfl
  | constraint c => exact c.mirrors.map fun _ => rfl
  | index i => exact i.mirrors.map fun _ => rfl

theorem CreateTable.mirrors (create : CreateTable) :
    Mirrors erase create.copy create.erase.copy := by
  have parts : Mirrors
      (Prod.map TableName.erase
        (Prod.map (List.map TableElement.erase) (Option.map StorageFormat.erase)))
      (do return (← create.name.copy, ← CopyM.each TableElement.copy create.elements,
        ← CopyM.optional StorageFormat.copy create.storageFormat))
      (do return (← create.erase.name.copy, ← CopyM.each TableElement.copy create.erase.elements,
        ← CopyM.optional StorageFormat.copy create.erase.storageFormat)) :=
    create.name.mirrors.bind fun _ =>
      (mirrors_each TableElement.mirrors create.elements).bind fun _ =>
        (mirrors_optional StorageFormat.mirrors create.storageFormat).map fun _ => rfl
  rw [CreateTable.copy, CreateTable.copy]
  exact .node parts fun _ (name, elements, storage) =>
    placed_erase (build_erase name create.existence elements storage) fun _ => rfl

theorem DropTable.mirrors (drop : DropTable) : Mirrors erase drop.copy drop.erase.copy :=
  .node drop.name.mirrors fun _ name =>
    placed_erase (build_erase name drop.existence drop.behavior) fun _ => rfl

theorem AlterAction.mirrors (action : AlterAction) :
    Mirrors erase action.copy action.erase.copy := by
  cases action with
  | addConstraint c | dropConstraint c => exact c.mirrors.map fun _ => rfl
  | addColumn c => exact c.mirrors.map fun _ => rfl
  | dropColumn c e => exact mirrors_pure erase (.dropColumn c e)

theorem AlterTable.mirrors (alter : AlterTable) : Mirrors erase alter.copy alter.erase.copy := by
  have parts : Mirrors (Prod.map TableName.erase (List.map AlterAction.erase))
      (do return (← alter.name.copy, ← CopyM.each AlterAction.copy alter.actions))
      (do return (← alter.erase.name.copy, ← CopyM.each AlterAction.copy alter.erase.actions)) :=
    alter.name.mirrors.bind fun _ =>
      (mirrors_each AlterAction.mirrors alter.actions).map fun _ => rfl
  rw [AlterTable.copy, AlterTable.copy]
  exact .node parts fun _ (name, actions) => placed_erase (build_erase name actions) fun _ => rfl

theorem Statement.mirrors (statement : Statement) :
    Mirrors erase statement.copy statement.erase.copy := by
  cases statement with
  | createIndex create => exact create.mirrors.map fun _ => rfl
  | dropIndex drop => exact drop.mirrors.map fun _ => rfl
  | createTable create => exact create.mirrors.map fun _ => rfl
  | dropTable drop => exact drop.mirrors.map fun _ => rfl
  | alterTable alter => exact alter.mirrors.map fun _ => rfl

theorem Node.mirrors (node : Node) : Mirrors erase node.copy node.erase.copy := by
  cases node with
  | tableName name => exact name.mirrors.map fun _ => rfl
  | expr e => exact e.mirrors.map fun _ => rfl
  | columnList columns => exact columns.mirrors.map fun _ => rfl
  | indexColumn column => exact column.mirrors.map fun _ => rfl
  | indexColumnList columns => exact columns.mirrors.map fun _ => rfl
  | storageFormat storage => exact storage.mirrors.map fun _ => rfl
  | columnDefinition column => exact column.mirrors.map fun _ => rfl
  | constraint c => exact c.mirrors.map fun _ => rfl
  | indexConstraint index => exact index.mirrors.map fun _ => rfl
  | statement s => exact s.mirrors.map fun _ => rfl

/-- A tree without positions is copied as the tree is, or refused for the same reason. -/
theorem Session.copy_erase (session : Session) (node : Node) :
    session.copy node.erase = (session.copy node).map Node.erase := by
  rw [copy, copy, node.mirrors]

end DdlTree
