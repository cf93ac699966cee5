import DdlTree.Node.Production
import DdlTree.Proofs.Outcome

/-! # What refusals are about

A constructor that refuses its parts blames the kind of node that it builds, or an extension that
the session has not enabled. It knows its parts and not the arguments that they were read from, so
its refusals name no argument.
-/

namespace DdlTree

/-- A refusal is about a node of the kind, or about an extension that is not enabled. -/
def BuildError.Concerns (session : Session) (kind : NodeKind) : BuildError → Prop
  | .malformed culprit _ => culprit = kind
  | .disabled feature => session.features.contains feature = false

/-- The number and the field of the argument that a refusal is about. -/
def BuildError.place? : BuildError → Option (Nat × String)
  | .malformed _ (.argumentShape position field ..) => some (position, field)
  | _ => none

/-- What a step is refused for concerns the kind and is no argument. -/
def Blames {α : Type} (session : Session) (kind : NodeKind) (step : Except BuildError α) : Prop :=
  ∀ error, step = .error error → error.Concerns session kind ∧ error.place? = none

namespace Blames

variable {α β : Type} {session : Session} {kind : NodeKind} {step other : Except BuildError α}

theorem ok (value : α) : Blames session kind (.ok value) :=
  fun _ same => nomatch same

theorem pure (value : α) : Blames session kind (Pure.pure value : Except BuildError α) :=
  ok value

theorem malformed {fault : Fault} (unplaced : (BuildError.malformed kind fault).place? = none) :
    Blames session kind (.error (.malformed kind fault) : Except BuildError α) := by
  rintro error same
  obtain rfl := Except.error.inj same
  exact ⟨rfl, unplaced⟩

theorem bind {next : α → Except BuildError β} (first : Blames session kind step)
    (rest : ∀ value, Blames session kind (next value)) : Blames session kind (step >>= next) := by
  cases step with
  | error error => exact fun refusal same => first refusal (congrArg _ (Except.error.inj same))
  | ok value => exact rest value

theorem map {f : α → β} (first : Blames session kind step) : Blames session kind (step.map f) :=
  bind first fun value => ok (f value)

theorem ite {condition : Prop} [Decidable condition] (holds : Blames session kind step)
    (fails : Blames session kind other) :
    Blames session kind (if condition then step else other) := by
  split
  · exact holds
  · exact fails

/-- A refusal under a condition, and otherwise what comes next. -/
theorem refuse {condition : Prop} [Decidable condition] {fault : Fault}
    (unplaced : (BuildError.malformed kind fault).place? = none)
    (rest : Blames session kind step) :
    Blames session kind (if condition then .error (.malformed kind fault) else step) :=
  ite (malformed unplaced) rest

/-- A refusal under a condition, in front of further steps. -/
theorem refuseBind {condition : Prop} [Decidable condition] {fault : Fault}
    {next : α → Except BuildError β} {rest : Except BuildError β}
    (unplaced : (BuildError.malformed kind fault).place? = none)
    (after : Blames session kind rest) :
    Blames session kind (if condition then .error (.malformed kind fault) >>= next else rest) :=
  ite (malformed unplaced) after

theorem require (feature : Feature) : Blames session kind (session.require feature) := by
  rw [Session.require]
  split
  · exact ok ()
  · rename_i missing
    intro error same
    obtain rfl := Except.error.inj same
    exact ⟨by simpa [BuildError.Concerns] using missing, rfl⟩

theorem requireWhen (used : Bool) (feature : Feature) :
    Blames session kind (session.requireWhen used feature) :=
  ite (require feature) (ok ())

theorem mapM {f : β → Except BuildError α} (each : ∀ item, Blames session kind (f item))
    (items : List β) : Blames session kind (items.mapM f) := by
  induction items with
  | nil => exact pure []
  | cons item rest ih =>
      rw [List.mapM_cons]
      exact (each item).bind fun _ => ih.bind fun _ => pure _

end Blames

variable {session : Session}

/-! ## Names and expressions -/

theorem TableName.blames_build (schema : Option Identifier) (name : Identifier) :
    Blames session .tableName (build schema name) :=
  .refuse rfl (.refuse rfl (.ok _))

theorem ColumnList.blames_check (seen : List String) (columns : List Identifier) :
    Blames session .columnList (check seen columns) := by
  induction columns generalizing seen with
  | nil => exact .ok ()
  | cons column rest ih => exact .refuse rfl (.refuse rfl (ih _))

theorem ColumnList.blames_build (columns : List Identifier) :
    Blames session .columnList (build columns) :=
  .refuseBind rfl ((blames_check [] columns).bind fun _ => .pure _)

theorem Expr.blames_buildColumn (table : Option TableName) (name : Identifier) :
    Blames session .columnReference (buildColumn table name) :=
  .refuse rfl (.ok _)

theorem Expr.blames_buildNumber (text : String) :
    Blames session .numericConstant (buildNumber text) :=
  .ite (.ok _) (.malformed rfl)

/-! ## Columns and indexes -/

namespace DataType

private theorem blames_refuse {α : Type} {fault : Fault}
    (unplaced : (BuildError.malformed .columnDefinition fault).place? = none) :
    Blames session .columnDefinition (refuse fault : Except BuildError α) :=
  .malformed unplaced

private theorem blames_positive (tag parameter : String) (given : Option Int) :
    Blames session .columnDefinition (positive tag parameter given) := by
  cases given with
  | none => exact blames_refuse rfl
  | some value => exact .ite (.ok _) (blames_refuse rfl)

private theorem blames_sized (tag : String) (type : Nat → DataType) (length scale : Option Int) :
    Blames session .columnDefinition (sized tag type length scale) :=
  .ite (blames_refuse rfl) (blames_positive tag "length" length).map

private theorem blames_scaleOf (given : Option Int) :
    Blames session .columnDefinition (scaleOf given) := by
  cases given with
  | none => exact .ok 0
  | some value => exact .ite (.ok _) (blames_refuse rfl)

theorem blames_build (tag : String) (length scale : Option Int) :
    Blames session .columnDefinition (build tag length scale) := by
  rw [build.eq_def]
  split
  · exact .ite (blames_refuse rfl) (.ok _)
  · split
    · exact blames_sized _ _ _ _
    · exact blames_sized _ _ _ _
    · exact (blames_positive _ _ _).bind fun _ => (blames_scaleOf _).bind fun _ =>
        .ite (blames_refuse rfl) (.ok _)
    · exact blames_refuse rfl

end DataType

theorem ColumnDefinition.blames_build (name : Identifier) (type : DataType) (notNull : Bool)
    (value : Option Expr) : Blames session .columnDefinition (build name type notNull value) :=
  .refuse rfl (.ok _)

theorem IndexColumn.blames_build (table : Option TableName) (name : Identifier)
    (ascending : Bool) : Blames session .indexColumn (build table name ascending) :=
  .refuse rfl (.ok _)

theorem IndexColumnList.blames_check (before columns : List IndexColumn) :
    Blames session .indexColumnList (check before columns) := by
  induction columns generalizing before with
  | nil => exact .ok ()
  | cons column rest ih => exact .refuse rfl (ih _)

theorem IndexColumnList.blames_build (columns : List IndexColumn) :
    Blames session .indexColumnList (build columns) :=
  .refuseBind rfl ((blames_check [] columns).bind fun _ => .pure _)

theorem Options.blames_checkKeys (bag : Options) (kind : NodeKind) :
    Blames session kind (bag.checkKeys kind) := by
  rw [checkKeys]
  cases bag.invalidKey? with
  | none => exact .ok ()
  | some key => exact .malformed rfl

theorem StorageFormat.blames_build (format : Identifier) (options : Options) :
    Blames session .storageFormat (build session format options) :=
  (Blames.require _).bind fun _ => .refuseBind rfl
    ((options.blames_checkKeys _).bind fun _ => .pure _)

theorem IndexDefinition.blames_check (kind : NodeKind) (index : IndexDefinition) :
    Blames session kind (index.check session kind) :=
  .refuseBind rfl (.ite ((Blames.require _).bind fun _ => .refuse rfl (.ok ())) (.ok ()))

theorem IndexConstraint.blames_build (name : Identifier) (index : IndexDefinition) :
    Blames session .indexConstraint (build session name index) :=
  .refuseBind rfl ((index.blames_check _).bind fun _ => .pure _)

/-! ## Constraints -/

theorem ExistenceCheck.blames_forCreate (existence : ExistenceCheck) (kind : NodeKind) :
    Blames session kind (existence.forCreate kind) :=
  .refuse rfl (.ok ())

theorem ExistenceCheck.blames_forDrop (existence : ExistenceCheck) (kind : NodeKind) :
    Blames session kind (existence.forDrop kind) :=
  .refuse rfl (.ok ())

theorem ForeignKey.blames_check (key : ForeignKey) :
    Blames session .constraintDefinition (key.check session) := by
  refine (Blames.requireWhen _ _).bind fun _ => (Blames.requireWhen _ _).bind fun _ =>
    .refuseBind rfl ?_
  cases key.refColumns with
  | none => exact .ok ()
  | some referenced => exact .refuse rfl (.ok ())

theorem ConstraintDrop.blames_check (name : Option TableName) (drop : ConstraintDrop) :
    Blames session .constraintDefinition (drop.check session name) :=
  (drop.existence.blames_forDrop _).bind fun _ => .refuseBind rfl
    (.ite (.refuseBind rfl (.require _)) (.ok ()))

theorem Constraint.blames_build (name : Option TableName) (body : ConstraintBody) :
    Blames session .constraintDefinition (build session name body) := by
  cases body with
  | foreignKey key => exact key.blames_check.bind fun _ => .pure _
  | drop d => exact (d.blames_check name).bind fun _ => .pure _
  | primaryKey | unique | check => exact .pure _

/-! ## Statements -/

theorem CreateIndex.blames_check (create : CreateIndex) :
    Blames session .createIndex (create.check session) := by
  refine (create.existence.blames_forCreate _).bind fun _ =>
    (create.index.blames_check _).bind fun _ =>
      .ite ((Blames.require _).bind fun _ => (create.options.blames_checkKeys _).bind fun _ => ?_) ?_
  -- the columns are looked at last, with or without options
  all_goals
    refine .ite ?_ (.ok ())
    dsimp only
    split
    · exact .malformed rfl
    · exact .ok ()

theorem CreateIndex.blames_build (parts : CreateIndex) :
    Blames session .createIndex (build session parts) :=
  parts.blames_check.bind fun _ => .pure _

theorem DropIndex.blames_build (name : TableName) (existence : ExistenceCheck) :
    Blames session .dropIndex (build name existence) :=
  (existence.blames_forDrop _).bind fun _ => .pure _

theorem CreateTable.blames_checkElements (seen : List String) (elements : List TableElement) :
    Blames session .createTable (checkElements seen elements) := by
  induction elements generalizing seen with
  | nil => exact .refuse rfl (.ok ())
  | cons element rest ih =>
      cases element with
      | column column => exact .refuse rfl (ih _)
      | constraint constraint => exact .refuse rfl (ih _)
      | index index => exact ih _

theorem CreateTable.blames_build (name : TableName) (existence : ExistenceCheck)
    (elements : List TableElement) (storage : Option StorageFormat) :
    Blames session .createTable (build name existence elements storage) :=
  (existence.blames_forCreate _).bind fun _ => (blames_checkElements [] elements).bind fun _ =>
    .pure _

theorem DropTable.blames_build (name : TableName) (existence : ExistenceCheck)
    (behavior : Option DropBehavior) :
    Blames session .dropTable (build name existence behavior) :=
  (existence.blames_forDrop _).bind fun _ => .pure _

theorem AlterAction.blames_check (action : AlterAction) :
    Blames session .alterTable action.check := by
  cases action with
  | addConstraint constraint => exact .refuse rfl (.ok ())
  | dropConstraint constraint => exact .ite (.ok ()) (.malformed rfl)
  | addColumn column => exact .ok ()
  | dropColumn column existence =>
      exact (existence.blames_forDrop _).bind fun _ => .refuse rfl (.ok ())

theorem AlterAction.blames_checkAll (actions : List AlterAction) :
    Blames session .alterTable (checkAll actions) := by
  induction actions with
  | nil => exact .ok ()
  | cons action rest ih => exact action.blames_check.bind fun _ => ih

theorem AlterTable.blames_build (name : TableName) (actions : List AlterAction) :
    Blames session .alterTable (build name actions) :=
  .refuseBind rfl ((AlterAction.blames_checkAll actions).bind fun _ => .pure _)

end DdlTree
