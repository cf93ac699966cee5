import DdlTree.Proofs.Erase
import DdlTree.Proofs.Outcome

/-! # Construction without positions

No constructor looks at the positions of its parts: from parts without positions it builds what it
builds from the parts, without positions, and it refuses the same parts for the same reason.
-/

namespace DdlTree

variable {session : Session}

@[simp] theorem TableName.text_erase (table : TableName) : table.erase.text = table.text := by
  rw [erase_eq, text, text]

@[simp] theorem TableName.sameObject_erase (a b : TableName) :
    a.erase.sameObject b.erase = a.sameObject b := by
  rw [erase_eq, erase_eq, sameObject, sameObject]

/-! ## Names and expressions -/

theorem TableName.map_erase_build (schema : Option Identifier) (name : Identifier) :
    (build schema name).map erase = build schema name := by
  simp only [build, map_ite, map_error, map_ok, erase_eq]

theorem ColumnList.map_erase_build (columns : List Identifier) :
    (build columns).map erase = build columns := by
  simp only [build, map_ite, map_bind, map_pure, erase_eq]

theorem Expr.buildColumn_erase (table : Option TableName) (name : Identifier) :
    buildColumn (table.map TableName.erase) name = (buildColumn table name).map erase := by
  simp only [buildColumn, map_ite, map_error, map_ok, erase_column]

theorem Expr.map_erase_buildNumber (text : String) :
    (buildNumber text).map erase = buildNumber text := by
  simp only [buildNumber, map_ite, map_error, map_ok, erase_number]

/-! ## Indexes -/

theorem IndexColumn.build_erase (table : Option TableName) (column : Identifier)
    (ascending : Bool) :
    build (table.map TableName.erase) column ascending
      = (build table column ascending).map erase := by
  simp only [build, map_ite, map_error, map_ok, erase_eq]

@[simp] theorem IndexColumn.sameColumn_erase (a b : IndexColumn) :
    a.erase.sameColumn b.erase = a.sameColumn b := by
  rw [erase_eq, erase_eq, sameColumn, sameColumn]
  cases a.table <;> cases b.table <;> simp

theorem IndexColumnList.check_erase (before columns : List IndexColumn) :
    check (before.map IndexColumn.erase) (columns.map IndexColumn.erase)
      = check before columns := by
  induction columns generalizing before with
  | nil => rfl
  | cons column rest ih =>
      have later := ih (column :: before)
      rw [List.map_cons] at later
      simp only [List.map_cons, check, List.any_map, Function.comp_def,
        IndexColumn.sameColumn_erase, later]
      rfl

theorem IndexColumnList.build_erase (columns : List IndexColumn) :
    build (columns.map IndexColumn.erase) = (build columns).map erase := by
  have checked := check_erase [] columns
  rw [List.map_nil] at checked
  simp only [build, List.isEmpty_map, checked, map_ite, map_bind, map_pure, erase_eq]

theorem StorageFormat.map_erase_build (format : Identifier) (options : Options) :
    (build session format options).map erase = build session format options := by
  simp only [build, map_ite, map_bind, map_pure, erase_eq]

theorem IndexDefinition.check_erase (kind : NodeKind) (index : IndexDefinition) :
    index.erase.check session kind = index.check session kind := by
  simp [check, erase_eq, IndexColumnList.erase_eq, IndexColumnList.allQualified,
    IndexColumn.erase_eq, Function.comp_def]

theorem IndexConstraint.build_erase (name : Identifier) (index : IndexDefinition) :
    build session name index.erase = (build session name index).map erase := by
  simp only [build, IndexDefinition.check_erase, map_ite, map_bind, map_pure, erase_eq]

/-! ## Constraints -/

theorem ForeignKey.check_erase (key : ForeignKey) :
    key.erase.check session = key.check session := by
  rw [erase_eq, check, check]
  cases key.refColumns <;> simp [ColumnList.erase_eq]

theorem ConstraintDrop.check_erase (name : Option TableName) (drop : ConstraintDrop) :
    drop.check session (name.map TableName.erase) = drop.check session name := by
  simp [check]

theorem Constraint.build_erase (name : Option TableName) (body : ConstraintBody) :
    build session (name.map TableName.erase) body.erase
      = (build session name body).map erase := by
  cases body with
  | foreignKey key =>
      simp only [build, ConstraintBody.erase_foreignKey, ForeignKey.check_erase, map_bind, map_pure,
        erase_eq]
  | drop d =>
      simp only [build, ConstraintBody.erase_drop, ConstraintDrop.check_erase, map_bind, map_pure,
        erase_eq]
  | _ => rfl

@[simp] theorem Constraint.isDrop_erase (constraint : Constraint) :
    constraint.erase.isDrop = constraint.isDrop := by
  rw [erase_eq, isDrop, isDrop]
  cases constraint.body <;> rfl

/-! ## Statements -/

theorem ColumnDefinition.build_erase (name : Identifier) (dataType : DataType) (notNull : Bool)
    (value : Option Expr) :
    build name dataType notNull (value.map Expr.erase)
      = (build name dataType notNull value).map erase := by
  simp only [build, map_ite, map_error, map_ok, erase_eq]

/-- The tables that the columns of an index name. -/
private theorem qualifiers_erase (columns : List IndexColumn) :
    (columns.map IndexColumn.erase).filterMap (·.table)
      = (columns.filterMap (·.table)).map TableName.erase := by
  rw [List.filterMap_map, List.map_filterMap]
  rfl

theorem CreateIndex.check_erase (create : CreateIndex) :
    create.erase.check session = create.check session := by
  have qualifiers := qualifiers_erase create.index.columns.columns
  have checked : create.index.erase.check session .createIndex
      = create.index.check session .createIndex := create.index.check_erase .createIndex
  simp only [check, erase, checked]
  simp only [IndexDefinition.erase_eq, IndexColumnList.erase_eq, qualifiers, List.find?_map,
    Function.comp_def, TableName.sameObject_erase]
  cases (create.index.columns.columns.filterMap (·.table)).find?
    fun table => !table.sameObject create.table with
  | none => rfl
  | some other => simp only [Option.map_some, TableName.text_erase]

theorem CreateIndex.build_erase (create : CreateIndex) :
    build session create.erase = (build session create).map erase := by
  simp only [build, check_erase, map_bind, map_pure]

theorem DropIndex.build_erase (name : TableName) (existence : ExistenceCheck) :
    build name.erase existence = (build name existence).map erase := by
  simp only [build, map_bind, map_pure, erase]

theorem CreateTable.checkElements_erase (seen : List String) (elements : List TableElement) :
    checkElements seen (elements.map TableElement.erase) = checkElements seen elements := by
  induction elements generalizing seen with
  | nil => rfl
  | cons element rest ih =>
      cases element with
      | column column => simp only [List.map_cons, TableElement.erase_column, checkElements,
          ColumnDefinition.erase_eq, ih]
      | constraint constraint => simp only [List.map_cons, TableElement.erase_constraint,
          checkElements, Constraint.isDrop_erase, ih]
      | index index => simp only [List.map_cons, TableElement.erase_index, checkElements, ih]

theorem CreateTable.build_erase (name : TableName) (existence : ExistenceCheck)
    (elements : List TableElement) (storageFormat : Option StorageFormat) :
    build name.erase existence (elements.map TableElement.erase)
        (storageFormat.map StorageFormat.erase)
      = (build name existence elements storageFormat).map erase := by
  simp only [build, checkElements_erase, map_bind, map_pure, erase]

theorem DropTable.build_erase (name : TableName) (existence : ExistenceCheck)
    (behavior : Option DropBehavior) :
    build name.erase existence behavior = (build name existence behavior).map erase := by
  simp only [build, map_bind, map_pure, erase]

theorem AlterAction.ofConstraint_erase (constraint : Constraint) :
    ofConstraint constraint.erase = (ofConstraint constraint).erase := by
  rw [ofConstraint, ofConstraint, Constraint.isDrop_erase]
  split <;> rfl

theorem AlterAction.check_erase (action : AlterAction) : action.erase.check = action.check := by
  cases action with
  | addConstraint constraint => rw [erase_addConstraint, check, check, Constraint.isDrop_erase]
  | dropConstraint constraint => rw [erase_dropConstraint, check, check, Constraint.isDrop_erase]
  | addColumn | dropColumn => rfl

theorem AlterAction.checkAll_erase (actions : List AlterAction) :
    checkAll (actions.map AlterAction.erase) = checkAll actions := by
  induction actions with
  | nil => rfl
  | cons action rest ih => simp only [List.map_cons, checkAll, check_erase, ih]

theorem AlterTable.build_erase (name : TableName) (actions : List AlterAction) :
    build name.erase (actions.map AlterAction.erase) = (build name actions).map erase := by
  simp only [build, List.isEmpty_map, AlterAction.checkAll_erase, map_ite, map_bind, map_pure,
    erase]

end DdlTree
