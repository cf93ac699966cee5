import DdlTree.Proofs.WellFormed

/-! # Acceptance

When a constructor accepts its parts: they keep the rules, the session enables the extensions that
they use, and the keys of their options are bare words. What it builds then is exactly its parts,
at no position.
-/

namespace DdlTree

variable {session : Session}

/-! ## Keys and extensions -/

/-- All keys are bare words. -/
def Options.Plain (bag : Options) : Prop :=
  ∀ key ∈ bag.keys, Text.isBareWord key

theorem Options.invalidKey?_eq_none {bag : Options} : bag.invalidKey? = none ↔ bag.Plain := by
  simp [invalidKey?, Plain]

theorem Options.checkKeys_eq_ok {bag : Options} {kind : NodeKind} :
    bag.checkKeys kind = .ok () ↔ bag.Plain := by
  rw [← invalidKey?_eq_none, checkKeys]
  cases bag.invalidKey? <;> simp

/-- An extension if it is used, and otherwise nothing. -/
def Feature.ifUsed (used : Bool) (feature : Feature) : List Feature :=
  if used then [feature] else []

/-- The session has enabled all the given extensions. -/
def Session.Enables (session : Session) (features : List Feature) : Prop :=
  ∀ feature ∈ features, session.features.contains feature

namespace Session

@[simp] theorem enables_nil : session.Enables [] := nofun

@[simp] theorem enables_append {some others : List Feature} :
    session.Enables (some ++ others) ↔ session.Enables some ∧ session.Enables others :=
  List.forall_mem_append

theorem require_eq_ok {feature : Feature} :
    session.require feature = .ok () ↔ session.Enables [feature] := by
  simp [require, Enables]

theorem requireWhen_eq_ok {used : Bool} {feature : Feature} :
    session.requireWhen used feature = .ok () ↔ session.Enables (feature.ifUsed used) := by
  cases used with
  | false => simp [requireWhen, Feature.ifUsed]
  | true => exact require_eq_ok

end Session

/-- The extensions that a foreign key uses. -/
def ForeignKey.features (key : ForeignKey) : List Feature :=
  Feature.tableGrouping.ifUsed key.grouping ++ Feature.deferrableConstraints.ifUsed key.deferrable

/-- The extensions that a drop uses. -/
def ConstraintDrop.features (drop : ConstraintDrop) : List Feature :=
  Feature.tableGrouping.ifUsed drop.grouping

/-- The extensions that a constraint uses. -/
def ConstraintBody.features : ConstraintBody → List Feature
  | .foreignKey key => key.features
  | .drop d => d.features
  | _ => []

/-- The extensions that the definition of an index uses itself. -/
def IndexDefinition.features (index : IndexDefinition) : List Feature :=
  Feature.tableGrouping.ifUsed index.joinType.isSome

/-- The extensions that a statement which creates an index uses itself. -/
def CreateIndex.features (create : CreateIndex) : List Feature :=
  create.index.features ++ Feature.indexOptions.ifUsed !create.options.isEmpty

/-- The extensions that a node uses itself, apart from the nodes below it. -/
def Node.features : Node → List Feature
  | .storageFormat _ => [.storageFormat]
  | .constraint c => c.body.features
  | .indexConstraint index => index.index.features
  | .statement (.createIndex create) => create.features
  | _ => []

/-! ## Names and expressions -/

theorem TableName.build_eq_ok {schema : Option Identifier} {name : Identifier} {table : TableName} :
    TableName.build schema name = .ok table ↔ table.WellFormed ∧ table = { schema, name } := by
  simp only [build, refuse_eq_ok, Except.ok.injEq]
  constructor
  · rintro ⟨named, schemaNamed, rfl⟩
    refine ⟨⟨by simpa using named, fun part mem => ?_⟩, rfl⟩
    obtain rfl : schema = some part := mem
    simpa using schemaNamed
  · rintro ⟨⟨named, schemaNamed⟩, rfl⟩
    refine ⟨by simp [named], ?_, rfl⟩
    cases schema with
    | none => simp
    | some schema => simp [schemaNamed schema rfl]

theorem TableName.wellFormed_of_parse {text : String} {table : TableName}
    (built : TableName.parse text = .ok table) : table.WellFormed := by
  rw [parse] at built
  split at built
  · exact (build_eq_ok.mp built).1
  · exact (build_eq_ok.mp (refuse_eq_ok.mp built).2).1

private theorem ColumnList.check_eq_ok {seen : List String} {columns : List Identifier} :
    ColumnList.check seen columns = .ok () ↔
      (∀ column ∈ columns, column.isEmpty = false) ∧ (columns.map Identifier.name).Nodup ∧
        ∀ column ∈ columns, column.name ∉ seen := by
  induction columns generalizing seen with
  | nil => simp [check]
  | cons column rest ih =>
      simp only [check, refuse_eq_ok, ih, List.map_cons, List.nodup_cons,
        List.mem_cons, not_or, List.contains_iff_mem, Bool.not_eq_true, List.mem_map, not_exists,
        not_and]
      grind

theorem ColumnList.build_eq_ok {columns : List Identifier} {list : ColumnList} :
    ColumnList.build columns = .ok list ↔ list.WellFormed ∧ list = { columns } := by
  simp only [build, refuse_bind_eq_ok, andThen_eq_ok, check_eq_ok, pure_eq_ok]
  constructor
  · rintro ⟨nonempty, ⟨named, distinct, -⟩, rfl⟩
    exact ⟨⟨by simpa using nonempty, named, distinct⟩, rfl⟩
  · rintro ⟨⟨nonempty, named, distinct⟩, rfl⟩
    exact ⟨by simpa using nonempty, ⟨named, distinct, by simp⟩, rfl⟩

theorem Expr.buildColumn_eq_ok {table : Option TableName} {name : Identifier} {expr : Expr} :
    Expr.buildColumn table name = .ok expr ↔ expr.WellFormed ∧ expr = .column table name {} := by
  simp only [buildColumn, refuse_eq_ok, Except.ok.injEq]
  constructor
  · rintro ⟨named, rfl⟩
    exact ⟨by simpa [WellFormed] using named, rfl⟩
  · rintro ⟨named, rfl⟩
    exact ⟨by simpa [WellFormed] using named, rfl⟩

theorem Expr.buildNumber_eq_ok {text : String} {expr : Expr} :
    Expr.buildNumber text = .ok expr ↔ expr.WellFormed ∧ expr = .number text {} := by
  rw [buildNumber]
  split
  · rename_i numeral
    simp only [Except.ok.injEq]
    exact ⟨fun same => ⟨same ▸ numeral, same.symm⟩, fun built => built.2.symm⟩
  · rename_i other
    refine ⟨nofun, ?_⟩
    rintro ⟨numeral, rfl⟩
    exact absurd numeral other

/-! ## Indexes -/

theorem IndexColumn.build_eq_ok {table : Option TableName} {name : Identifier} {ascending : Bool}
    {column : IndexColumn} :
    IndexColumn.build table name ascending = .ok column ↔
      column.column.isEmpty = false ∧ column = { table, column := name, ascending } := by
  simp only [build, refuse_eq_ok, Except.ok.injEq, Bool.not_eq_true]
  constructor
  · rintro ⟨named, rfl⟩
    exact ⟨named, rfl⟩
  · rintro ⟨named, rfl⟩
    exact ⟨named, rfl⟩

private theorem IndexColumnList.check_eq_ok {before columns : List IndexColumn} :
    IndexColumnList.check before columns = .ok () ↔
      (columns.Pairwise fun a b => a.sameColumn b = false) ∧
        ∀ column ∈ columns, ∀ earlier ∈ before, earlier.sameColumn column = false := by
  induction columns generalizing before with
  | nil => simp [check]
  | cons column rest ih =>
      simp only [check, refuse_eq_ok, ih, List.pairwise_cons, List.forall_mem_cons,
        List.any_eq_true, not_exists, not_and, Bool.not_eq_true]
      grind

theorem IndexColumnList.build_eq_ok {columns : List IndexColumn} {list : IndexColumnList} :
    IndexColumnList.build columns = .ok list ↔ list.WellFormed ∧ list = { columns } := by
  simp only [build, refuse_bind_eq_ok, andThen_eq_ok, check_eq_ok, pure_eq_ok]
  constructor
  · rintro ⟨nonempty, ⟨distinct, -⟩, rfl⟩
    exact ⟨⟨by simpa using nonempty, distinct⟩, rfl⟩
  · rintro ⟨⟨nonempty, distinct⟩, rfl⟩
    exact ⟨by simpa using nonempty, ⟨distinct, by simp⟩, rfl⟩

theorem StorageFormat.build_eq_ok {format : Identifier} {options : Options}
    {storage : StorageFormat} :
    StorageFormat.build session format options = .ok storage ↔
      format.isEmpty = false ∧ session.Enables [.storageFormat] ∧ options.Plain ∧
        storage = { format, options } := by
  simp only [build, andThen_eq_ok, refuse_bind_eq_ok, Session.require_eq_ok,
    Options.checkKeys_eq_ok, pure_eq_ok, Bool.not_eq_true]
  constructor
  · rintro ⟨enabled, named, plain, rfl⟩
    exact ⟨named, enabled, plain, rfl⟩
  · rintro ⟨named, enabled, plain, rfl⟩
    exact ⟨enabled, named, plain, rfl⟩

theorem IndexColumnList.allQualified_iff {list : IndexColumnList} :
    list.allQualified ↔ ∀ column ∈ list.columns, column.table.isSome :=
  List.all_eq_true

theorem IndexDefinition.check_eq_ok {kind : NodeKind} {index : IndexDefinition} :
    index.check session kind = .ok () ↔ index.WellFormed ∧ session.Enables index.features := by
  obtain ⟨unique, columns, joinType, storage⟩ := index
  simp only [check, refuse_bind_eq_ok, features]
  cases joinType with
  | none =>
      simp only [Option.isSome_none, Feature.ifUsed]
      exact ⟨fun ⟨nonempty, _⟩ => ⟨⟨by simpa using nonempty, nofun⟩, nofun⟩,
        fun ⟨rules, _⟩ => ⟨by simpa using rules.nonempty, rfl⟩⟩
  | some join =>
      simp only [Option.isSome_some, ↓reduceIte, andThen_eq_ok, refuse_eq_ok,
        Session.require_eq_ok, Feature.ifUsed]
      constructor
      · rintro ⟨nonempty, enabled, qualified, -⟩
        refine ⟨⟨by simpa using nonempty, fun _ => ?_⟩, enabled⟩
        exact IndexColumnList.allQualified_iff.mp (by simpa using qualified)
      · rintro ⟨rules, enabled⟩
        have qualified := IndexColumnList.allQualified_iff.mpr (rules.qualified rfl)
        exact ⟨by simpa using rules.nonempty, enabled, by simpa using qualified, rfl⟩

theorem IndexConstraint.build_eq_ok {name : Identifier} {index : IndexDefinition}
    {constraint : IndexConstraint} :
    IndexConstraint.build session name index = .ok constraint ↔
      constraint.WellFormed ∧ session.Enables index.features ∧ constraint = { name, index } := by
  simp only [build, refuse_bind_eq_ok, andThen_eq_ok, IndexDefinition.check_eq_ok, pure_eq_ok,
    Bool.not_eq_true]
  constructor
  · rintro ⟨named, ⟨rules, enabled⟩, rfl⟩
    exact ⟨⟨named, rules⟩, enabled, rfl⟩
  · rintro ⟨⟨named, rules⟩, enabled, rfl⟩
    exact ⟨named, ⟨rules, enabled⟩, rfl⟩

/-! ## Constraints -/

theorem ExistenceCheck.forCreate_eq_ok {existence : ExistenceCheck} {kind : NodeKind} :
    existence.forCreate kind = .ok () ↔ existence ≠ .ifExists := by
  simp [forCreate]

theorem ExistenceCheck.forDrop_eq_ok {existence : ExistenceCheck} {kind : NodeKind} :
    existence.forDrop kind = .ok () ↔ existence ≠ .ifNotExists := by
  simp [forDrop]

theorem ForeignKey.check_eq_ok {key : ForeignKey} :
    key.check session = .ok () ↔ key.WellFormed ∧ session.Enables key.features := by
  simp only [check, andThen_eq_ok, refuse_bind_eq_ok, Session.requireWhen_eq_ok, features,
    Session.enables_append]
  have deferred : ¬(key.initiallyDeferred && !key.deferrable) = true ↔
      (key.initiallyDeferred → key.deferrable) := by simp
  rw [deferred]
  split
  · rename_i referenced given
    simp only [refuse_eq_ok, bne_iff_ne, ne_eq, not_not]
    constructor
    · rintro ⟨grouping, deferrable, deferred, count, -⟩
      refine ⟨⟨deferred, fun other mem => ?_⟩, grouping, deferrable⟩
      obtain rfl : referenced = other := Option.some.inj (given.symm.trans mem)
      exact count
    · rintro ⟨rules, grouping, deferrable⟩
      exact ⟨grouping, deferrable, rules.deferrable, rules.counts referenced given, rfl⟩
  · rename_i absent
    constructor
    · rintro ⟨grouping, deferrable, deferred, -⟩
      exact ⟨⟨deferred, fun referenced given => absurd given (absent referenced)⟩, grouping,
        deferrable⟩
    · rintro ⟨rules, grouping, deferrable⟩
      exact ⟨grouping, deferrable, rules.deferrable, rfl⟩

theorem ConstraintDrop.check_eq_ok {name : Option TableName} {drop : ConstraintDrop} :
    drop.check session name = .ok () ↔ drop.WellFormed name ∧ session.Enables drop.features := by
  obtain ⟨constraintType, behavior, existence, grouping⟩ := drop
  simp only [check, andThen_eq_ok, refuse_bind_eq_ok, ExistenceCheck.forDrop_eq_ok, features]
  have named : ¬(name.isNone && constraintType != .primaryKey) = true ↔
      (name = none → constraintType = .primaryKey) := by
    cases name <;> simp
  rw [named]
  cases grouping with
  | false =>
      simp only [Feature.ifUsed]
      exact ⟨fun ⟨existence, named, _⟩ => ⟨⟨existence, named, nofun⟩, nofun⟩,
        fun ⟨rules, _⟩ => ⟨rules.existence, rules.named, rfl⟩⟩
  | true =>
      simp only [↓reduceIte, refuse_bind_eq_ok, Session.require_eq_ok, Feature.ifUsed]
      constructor
      · rintro ⟨existence, named, grouping, enabled⟩
        exact ⟨⟨existence, named, fun _ => by simpa using grouping⟩, enabled⟩
      · rintro ⟨rules, enabled⟩
        exact ⟨rules.existence, rules.named, by simpa using rules.grouping rfl, enabled⟩

theorem Constraint.build_eq_ok {name : Option TableName} {body : ConstraintBody}
    {constraint : Constraint} :
    Constraint.build session name body = .ok constraint ↔
      constraint.WellFormed ∧ session.Enables body.features ∧ constraint = { name, body } := by
  cases body with
  | foreignKey key =>
      simp only [build, andThen_eq_ok, ForeignKey.check_eq_ok, pure_eq_ok]
      constructor
      · rintro ⟨⟨rules, enabled⟩, rfl⟩
        exact ⟨rules, enabled, rfl⟩
      · rintro ⟨rules, enabled, rfl⟩
        exact ⟨⟨rules, enabled⟩, rfl⟩
  | drop d =>
      simp only [build, andThen_eq_ok, ConstraintDrop.check_eq_ok, pure_eq_ok]
      constructor
      · rintro ⟨⟨rules, enabled⟩, rfl⟩
        exact ⟨rules, enabled, rfl⟩
      · rintro ⟨rules, enabled, rfl⟩
        exact ⟨⟨rules, enabled⟩, rfl⟩
  | primaryKey | unique | check =>
      simp only [build, pure_eq_ok]
      constructor
      · rintro rfl
        exact ⟨trivial, nofun, rfl⟩
      · rintro ⟨-, -, rfl⟩
        rfl

/-! ## Statements -/

theorem ColumnDefinition.build_eq_ok {types : DataType → Prop} {name : Identifier}
    {type : DataType} {notNull : Bool} {value : Option Expr} {column : ColumnDefinition}
    (allowed : types type) :
    ColumnDefinition.build name type notNull value = .ok column ↔
      column.WellFormed types ∧
        column = { name, dataType := type, notNull, defaultValue := value } := by
  simp only [build, refuse_eq_ok, Except.ok.injEq, Bool.not_eq_true]
  constructor
  · rintro ⟨named, rfl⟩
    exact ⟨⟨named, allowed⟩, rfl⟩
  · rintro ⟨rules, rfl⟩
    exact ⟨rules.named, rfl⟩

/-- Without options nothing is asked of them. -/
private theorem optionsThen_eq_ok {bag : Options} {kind : NodeKind}
    {next : Except BuildError Unit} :
    (if !bag.isEmpty then do
        session.require .indexOptions
        bag.checkKeys kind
        next
      else next) = .ok () ↔
      session.Enables (Feature.indexOptions.ifUsed !bag.isEmpty) ∧ bag.Plain ∧ next = .ok () := by
  cases empty : bag.isEmpty with
  | false =>
      simp only [Bool.not_false, ↓reduceIte, andThen_eq_ok, Session.require_eq_ok,
        Options.checkKeys_eq_ok, Feature.ifUsed]
  | true =>
      have plain : bag.Plain := by
        rw [Options.isEmpty, List.isEmpty_iff] at empty
        simp [Options.Plain, Options.keys, empty]
      simp [Feature.ifUsed, plain]

theorem CreateIndex.check_eq_ok {create : CreateIndex} :
    create.check session = .ok () ↔
      create.WellFormed ∧ session.Enables create.features ∧ create.options.Plain := by
  simp only [check, andThen_eq_ok, ExistenceCheck.forCreate_eq_ok, IndexDefinition.check_eq_ok,
    features, Session.enables_append, optionsThen_eq_ok]
  constructor
  · rintro ⟨existence, ⟨index, grouping⟩, options, plain, own⟩
    refine ⟨⟨existence, index, fun plainIndex column mem table named => ?_⟩, ⟨grouping, options⟩,
      plain⟩
    rw [plainIndex, Option.isNone_none, if_pos rfl] at own
    split at own
    · simp at own
    · rename_i none
      have notOther := List.find?_eq_none.mp (Option.eq_none_iff_forall_not_mem.mpr none) table
        (List.mem_filterMap.mpr ⟨column, mem, named⟩)
      simpa using notOther
  · rintro ⟨⟨existence, index, own⟩, ⟨grouping, options⟩, plain⟩
    refine ⟨existence, ⟨index, grouping⟩, options, plain, ?_⟩
    split
    · rename_i plainIndex
      split
      · rename_i found isFound
        obtain ⟨column, mem, named⟩ := List.mem_filterMap.mp (List.mem_of_find?_eq_some isFound)
        have same := own (by simpa using plainIndex) column mem found named
        exact absurd (List.find?_some isFound) (by simp [same])
      · rfl
    · rfl

theorem CreateIndex.build_eq_ok {parts create : CreateIndex} :
    CreateIndex.build session parts = .ok create ↔
      create.WellFormed ∧ session.Enables create.features ∧ create.options.Plain ∧
        create = parts := by
  simp only [build, andThen_eq_ok, check_eq_ok, pure_eq_ok]
  constructor
  · rintro ⟨⟨rules, enabled, plain⟩, rfl⟩
    exact ⟨rules, enabled, plain, rfl⟩
  · rintro ⟨rules, enabled, plain, rfl⟩
    exact ⟨⟨rules, enabled, plain⟩, rfl⟩

theorem DropIndex.build_eq_ok {name : TableName} {existence : ExistenceCheck} {drop : DropIndex} :
    DropIndex.build name existence = .ok drop ↔
      drop.existence ≠ .ifNotExists ∧ drop = { name, existence } := by
  simp only [build, andThen_eq_ok, ExistenceCheck.forDrop_eq_ok, pure_eq_ok]
  constructor
  · rintro ⟨allowed, rfl⟩
    exact ⟨allowed, rfl⟩
  · rintro ⟨allowed, rfl⟩
    exact ⟨allowed, rfl⟩

private theorem CreateTable.checkElements_eq_ok {seen : List String}
    {elements : List TableElement} :
    CreateTable.checkElements seen elements = .ok () ↔
      (seen ≠ [] ∨ columnsOf elements ≠ []) ∧
        ((columnsOf elements).map fun column => column.name.name).Nodup ∧
        (∀ column ∈ columnsOf elements, column.name.name ∉ seen) ∧
        ∀ constraint ∈ constraintsOf elements, constraint.isDrop = false := by
  induction elements generalizing seen with
  | nil => simp [checkElements, columnsOf, constraintsOf]
  | cons element rest ih =>
      cases element with
      | column column =>
          simp only [checkElements, refuse_eq_ok, ih, columnsOf, constraintsOf,
            List.filterMap_cons, List.map_cons, List.nodup_cons, List.contains_iff_mem,
            List.mem_cons, not_or, List.mem_map]
          grind
      | constraint constraint =>
          simp only [checkElements, refuse_eq_ok, ih, columnsOf, constraintsOf,
            List.filterMap_cons, List.forall_mem_cons, Bool.not_eq_true]
          grind
      | index index => exact ih

theorem CreateTable.build_eq_ok {name : TableName} {existence : ExistenceCheck}
    {elements : List TableElement} {storageFormat : Option StorageFormat} {create : CreateTable} :
    CreateTable.build name existence elements storageFormat = .ok create ↔
      create.WellFormed ∧ create = { name, existence, elements, storageFormat } := by
  simp only [build, andThen_eq_ok, ExistenceCheck.forCreate_eq_ok, checkElements_eq_ok,
    pure_eq_ok]
  constructor
  · rintro ⟨allowed, ⟨nonempty, distinct, -, noDrop⟩, rfl⟩
    exact ⟨⟨allowed, by simpa [columns] using nonempty, distinct, noDrop⟩, rfl⟩
  · rintro ⟨⟨allowed, nonempty, distinct, noDrop⟩, rfl⟩
    exact ⟨allowed, ⟨.inr nonempty, distinct, by simp, noDrop⟩, rfl⟩

theorem DropTable.build_eq_ok {name : TableName} {existence : ExistenceCheck}
    {behavior : Option DropBehavior} {drop : DropTable} :
    DropTable.build name existence behavior = .ok drop ↔
      drop.existence ≠ .ifNotExists ∧ drop = { name, existence, behavior } := by
  simp only [build, andThen_eq_ok, ExistenceCheck.forDrop_eq_ok, pure_eq_ok]
  constructor
  · rintro ⟨allowed, rfl⟩
    exact ⟨allowed, rfl⟩
  · rintro ⟨allowed, rfl⟩
    exact ⟨allowed, rfl⟩

theorem AlterAction.check_eq_ok {action : AlterAction} :
    action.check = .ok () ↔ action.WellFormed := by
  cases action with
  | addConstraint constraint | dropConstraint constraint => simp [check, WellFormed]
  | addColumn column => exact ⟨fun _ => trivial, fun _ => rfl⟩
  | dropColumn column existence =>
      simp only [check, andThen_eq_ok, ExistenceCheck.forDrop_eq_ok, refuse_eq_ok, pure_eq_ok,
        and_true, Bool.not_eq_true, WellFormed]

private theorem AlterAction.checkAll_eq_ok {actions : List AlterAction} :
    AlterAction.checkAll actions = .ok () ↔ ∀ action ∈ actions, action.WellFormed := by
  induction actions with
  | nil => simp [checkAll]
  | cons action rest ih =>
      simp only [checkAll, andThen_eq_ok, check_eq_ok, ih, List.forall_mem_cons]

theorem AlterTable.build_eq_ok {name : TableName} {actions : List AlterAction}
    {alter : AlterTable} :
    AlterTable.build name actions = .ok alter ↔ alter.WellFormed ∧ alter = { name, actions } := by
  simp only [build, refuse_bind_eq_ok, andThen_eq_ok, AlterAction.checkAll_eq_ok, pure_eq_ok]
  constructor
  · rintro ⟨nonempty, rules, rfl⟩
    exact ⟨⟨by simpa using nonempty, rules⟩, rfl⟩
  · rintro ⟨⟨nonempty, rules⟩, rfl⟩
    exact ⟨by simpa using nonempty, rules, rfl⟩

end DdlTree
