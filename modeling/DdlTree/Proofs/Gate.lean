import DdlTree.Proofs.Equivalence

/-! # The gate of extensions

A session decides about nothing but extensions. Under fewer extensions a production does what it
does under more, unless it meets an extension that is not enabled and is refused for it; and what it
builds does not depend on the extensions beyond those that the node uses itself.
-/

namespace DdlTree

/-! ## Two sessions side by side -/

/-- Every extension of the session is one of the wider session. -/
def Session.Within (session wider : Session) : Prop :=
  ∀ feature, session.features.contains feature → wider.features.contains feature

/-- A step under a session does what it does elsewhere, or is refused for an extension that the
    session does not enable. -/
def Alike {α : Type} (session : Session) (step elsewhere : Except BuildError α) : Prop :=
  step = elsewhere ∨
    ∃ feature, session.features.contains feature = false ∧ step = .error (.disabled feature)

namespace Alike

variable {α β : Type} {session wider : Session} {step elsewhere : Except BuildError α}

theorem same (step : Except BuildError α) : Alike session step step :=
  .inl rfl

theorem bind {next nextElsewhere : α → Except BuildError β} (first : Alike session step elsewhere)
    (rest : ∀ value, Alike session (next value) (nextElsewhere value)) :
    Alike session (step >>= next) (elsewhere >>= nextElsewhere) := by
  rcases first with rfl | ⟨feature, missing, rfl⟩
  · cases step with
    | error error => exact same (.error error)
    | ok value => exact rest value
  · exact .inr ⟨feature, missing, rfl⟩

theorem ite {condition : Prop} [Decidable condition] {other otherElsewhere : Except BuildError α}
    (holds : Alike session step elsewhere) (fails : Alike session other otherElsewhere) :
    Alike session (if condition then step else other)
      (if condition then elsewhere else otherElsewhere) := by
  split
  · exact holds
  · exact fails

variable (within : session.Within wider)

include within

theorem require (feature : Feature) :
    Alike session (session.require feature) (wider.require feature) := by
  cases enabled : session.features.contains feature with
  | true =>
      left
      rw [Session.require, Session.require, if_pos enabled, if_pos (within feature enabled)]
  | false =>
      refine .inr ⟨feature, enabled, ?_⟩
      rw [Session.require, if_neg (by simp [enabled])]

theorem requireWhen (used : Bool) (feature : Feature) :
    Alike session (session.requireWhen used feature) (wider.requireWhen used feature) :=
  ite (require within feature) (same _)

end Alike

/-! ## Checks -/

section Checks

variable {session wider : Session} (within : session.Within wider)

include within

theorem ForeignKey.alike_check (key : ForeignKey) :
    Alike session (key.check session) (key.check wider) :=
  (Alike.requireWhen within _ _).bind fun _ => (Alike.requireWhen within _ _).bind fun _ => .same _

theorem ConstraintDrop.alike_check (name : Option TableName) (drop : ConstraintDrop) :
    Alike session (drop.check session name) (drop.check wider name) :=
  (Alike.same _).bind fun _ => .ite (.same _)
    (.ite (.ite (.same _) (.require within _)) (.same _))

theorem IndexDefinition.alike_check (kind : NodeKind) (index : IndexDefinition) :
    Alike session (index.check session kind) (index.check wider kind) :=
  .ite (.same _) (.ite ((Alike.require within _).bind fun _ => .same _) (.same _))

theorem CreateIndex.alike_check (create : CreateIndex) :
    Alike session (create.check session) (create.check wider) :=
  (Alike.same _).bind fun _ => (create.index.alike_check within _).bind fun _ =>
    .ite ((Alike.require within _).bind fun _ => .same _) (.same _)

end Checks

/-! ## Filters -/

theorem Session.Enables.within {session wider : Session} (within : session.Within wider)
    {features : List Feature} (enabled : session.Enables features) : wider.Enables features :=
  fun feature mem => within feature (enabled feature mem)

/-- A step under a session is one under a wider session behind a filter, which lets a value pass
    exactly if the session enables the extensions that the value uses. -/
structure Filtered {α : Type} (session : Session) (features : α → List Feature)
    (step wide : Except BuildError α) : Prop where
  alike : Alike session step wide
  passes : ∀ value, step = .ok value ↔ wide = .ok value ∧ session.Enables (features value)

namespace Filtered

variable {α β : Type} {session wider : Session} {features : α → List Feature}

/-- A step that does not depend on the session, and whose values use no extensions. -/
theorem free {step : Except BuildError α} (bare : ∀ value, step = .ok value → features value = []) :
    Filtered session features step step := by
  refine ⟨.same step, fun value => ⟨fun built => ⟨built, ?_⟩, And.left⟩⟩
  rw [bare value built]
  exact Session.enables_nil

theorem refused {error : BuildError} :
    Filtered session features (.error error) (.error error) :=
  free nofun

/-- Reading comes first and does not depend on the session. -/
theorem read {first : Except BuildError β} {next wide : β → Except BuildError α}
    (rest : ∀ value, Filtered session features (next value) (wide value)) :
    Filtered session features (first >>= next) (first >>= wide) := by
  cases first with
  | error error => exact refused
  | ok value => exact rest value

/-- What is built is put into something that uses the same extensions. -/
theorem map {step wide : Except BuildError α} (filtered : Filtered session features step wide)
    {outer : β → List Feature} {f : α → β} (same : ∀ value, outer (f value) = features value) :
    Filtered session outer (step.map f) (wide.map f) := by
  refine ⟨?_, fun result => ?_⟩
  · rcases filtered.alike with same | ⟨feature, missing, disabled⟩
    · exact .inl (congrArg _ same)
    · exact .inr ⟨feature, missing, by rw [disabled]; rfl⟩
  · simp only [map_eq_ok, filtered.passes]
    constructor
    · rintro ⟨value, ⟨built, enabled⟩, rfl⟩
      exact ⟨⟨value, built, rfl⟩, same value ▸ enabled⟩
    · rintro ⟨⟨value, built, rfl⟩, enabled⟩
      exact ⟨value, ⟨built, same value ▸ enabled⟩, rfl⟩

/-- A constructor that accepts what keeps a rule and uses extensions that are enabled. -/
theorem of_accepts {build : Session → Except BuildError α} {rule : α → Prop}
    (within : session.Within wider) (alike : Alike session (build session) (build wider))
    (accepts : ∀ session value,
      build session = .ok value ↔ rule value ∧ session.Enables (features value)) :
    Filtered session features (build session) (build wider) := by
  refine ⟨alike, fun value => ?_⟩
  rw [accepts, accepts]
  exact ⟨fun ⟨rules, enabled⟩ => ⟨⟨rules, enabled.within within⟩, enabled⟩,
    fun ⟨⟨rules, _⟩, enabled⟩ => ⟨rules, enabled⟩⟩

end Filtered

section Constructors

variable {session wider : Session} (within : session.Within wider)

include within

theorem StorageFormat.filtered (format : Identifier) (options : Options) :
    Filtered session (fun _ => [.storageFormat]) (build session format options)
      (build wider format options) := by
  have accepts (session : Session) (storage : StorageFormat) :
      build session format options = .ok storage ↔
        (format.isEmpty = false ∧ options.Plain ∧ storage = { format, options }) ∧
          session.Enables [.storageFormat] := by
    rw [build_eq_ok]
    tauto
  exact .of_accepts within ((Alike.require within _).bind fun _ => .same _) accepts

theorem Constraint.filtered (name : Option TableName) (body : ConstraintBody) :
    Filtered session (fun constraint => constraint.body.features) (build session name body)
      (build wider name body) := by
  have accepts (session : Session) (constraint : Constraint) :
      build session name body = .ok constraint ↔
        (constraint.WellFormed ∧ constraint = { name, body }) ∧
          session.Enables constraint.body.features := by
    rw [build_eq_ok]
    constructor
    · rintro ⟨rules, enabled, rfl⟩
      exact ⟨⟨rules, rfl⟩, enabled⟩
    · rintro ⟨⟨rules, rfl⟩, enabled⟩
      exact ⟨rules, enabled, rfl⟩
  have alike : Alike session (build session name body) (build wider name body) := by
    cases body with
    | foreignKey key => exact (key.alike_check within).bind fun _ => .same _
    | drop d => exact (d.alike_check within name).bind fun _ => .same _
    | primaryKey | unique | check => exact .same _
  exact .of_accepts within alike accepts

theorem IndexConstraint.filtered (name : Identifier) (index : IndexDefinition) :
    Filtered session (fun constraint => constraint.index.features) (build session name index)
      (build wider name index) := by
  have accepts (session : Session) (constraint : IndexConstraint) :
      build session name index = .ok constraint ↔
        (constraint.WellFormed ∧ constraint = { name, index }) ∧
          session.Enables constraint.index.features := by
    rw [build_eq_ok]
    constructor
    · rintro ⟨rules, enabled, rfl⟩
      exact ⟨⟨rules, rfl⟩, enabled⟩
    · rintro ⟨⟨rules, rfl⟩, enabled⟩
      exact ⟨rules, enabled, rfl⟩
  exact .of_accepts within
    (.ite (.same _) ((index.alike_check within _).bind fun _ => .same _)) accepts

theorem CreateIndex.filtered (parts : CreateIndex) :
    Filtered session CreateIndex.features (build session parts) (build wider parts) := by
  have accepts (session : Session) (create : CreateIndex) :
      build session parts = .ok create ↔
        (create.WellFormed ∧ create.options.Plain ∧ create = parts) ∧
          session.Enables create.features := by
    rw [build_eq_ok]
    tauto
  exact .of_accepts within ((parts.alike_check within).bind fun _ => .same _) accepts

end Constructors

/-! ## Productions -/

/-- The kinds of nodes that can use extensions themselves. -/
def NodeKind.gated : List NodeKind :=
  [.storageFormat, .constraintDefinition, .indexConstraint, .createIndex]

theorem Node.features_eq_nil {node : Node} (free : node.kind ∉ NodeKind.gated) :
    node.features = [] := by
  cases node with
  | storageFormat | constraint | indexConstraint => simp [kind, NodeKind.gated] at free
  | statement s =>
      cases s with
      | createIndex create => simp [kind, Statement.kind, NodeKind.gated] at free
      | _ => rfl
  | _ => rfl

namespace Production

section Filters

variable {session wider : Session} (within : session.Within wider)

include within

private theorem storageFormat_filtered (arguments : List Argument) :
    Filtered session Node.features (storageFormat session arguments)
      (storageFormat wider arguments) := by
  rw [storageFormat.eq_def, storageFormat.eq_def]
  split
  · exact .read fun format => .read fun options =>
      (StorageFormat.filtered within format options).map fun _ => rfl
  · exact .refused

private theorem ofSubKind_filtered (subKind : SubKind) (arguments : List Argument) :
    Filtered session (fun constraint => constraint.body.features)
      (ofSubKind session subKind arguments) (ofSubKind wider subKind arguments) := by
  cases subKind with
  | primaryKey | unique =>
      rw [ofSubKind, ofSubKind, keyConstraint.eq_def, keyConstraint.eq_def]
      split
      · exact .read fun name => .read fun columns => Constraint.filtered within name _
      · exact .refused
  | check =>
      rw [ofSubKind, ofSubKind, checkConstraint.eq_def, checkConstraint.eq_def]
      split
      · exact .read fun name => .read fun condition => Constraint.filtered within name _
      · exact .refused
  | foreignKey =>
      rw [ofSubKind, ofSubKind, foreignKeyConstraint.eq_def, foreignKeyConstraint.eq_def]
      split
      · exact .read fun name => .read fun _ => .read fun _ => .read fun _ => .read fun _ =>
          .read fun _ => .read fun _ => .read fun _ => .read fun _ => .read fun _ =>
            Constraint.filtered within name _
      · exact .refused
  | drop =>
      rw [ofSubKind, ofSubKind, dropConstraint.eq_def, dropConstraint.eq_def]
      split
      · exact .read fun name => .read fun _ => .read fun _ => .read fun _ => .read fun _ =>
          Constraint.filtered within name _
      · exact .refused

private theorem constraintDefinition_filtered (arguments : List Argument) :
    Filtered session Node.features (constraintDefinition session arguments)
      (constraintDefinition wider arguments) := by
  rw [constraintDefinition.eq_def, constraintDefinition.eq_def]
  split
  · exact .refused
  · split
    · exact (ofSubKind_filtered within _ _).map fun _ => rfl
    · exact .refused
  · exact .refused

private theorem indexConstraint_filtered (arguments : List Argument) :
    Filtered session Node.features (indexConstraint session arguments)
      (indexConstraint wider arguments) := by
  rw [indexConstraint.eq_def, indexConstraint.eq_def]
  split
  · exact .read fun name => .read fun _ => .read fun _ => .read fun _ => .read fun _ =>
      (IndexConstraint.filtered within name _).map fun _ => rfl
  · exact .refused

private theorem createIndex_filtered (arguments : List Argument) :
    Filtered session Node.features (createIndex session arguments)
      (createIndex wider arguments) := by
  rw [createIndex.eq_def, createIndex.eq_def]
  split
  · exact .read fun _ => .read fun _ => .read fun _ => .read fun _ => .read fun _ =>
      .read fun _ => .read fun _ => .read fun _ =>
        (CreateIndex.filtered within _).map fun _ => rfl
  · exact .refused

/-- Only four productions look at the session at all. -/
theorem build_filtered (kind : NodeKind) (arguments : List Argument) :
    Filtered session Node.features (build session kind arguments) (build wider kind arguments) := by
  by_cases gated : kind ∈ NodeKind.gated
  · simp only [NodeKind.gated, List.mem_cons, List.not_mem_nil, or_false] at gated
    obtain rfl | rfl | rfl | rfl := gated
    · exact storageFormat_filtered within arguments
    · exact constraintDefinition_filtered within arguments
    · exact indexConstraint_filtered within arguments
    · exact createIndex_filtered within arguments
  · have same : build session kind arguments = build wider kind arguments := by
      cases kind with
      | storageFormat | constraintDefinition | indexConstraint | createIndex =>
          exact absurd (by decide) gated
      | _ => rfl
    rw [same]
    refine .free fun node built => Node.features_eq_nil ?_
    rwa [kind_of_build wider kind arguments node built]

end Filters

end Production

/-- The gate of extensions filters and does nothing else. Under fewer extensions a production does
    exactly what it does under more, or is refused for an extension that is not enabled; it builds a
    node exactly if it builds that node under all extensions and those that the node uses itself are
    enabled; and the limit for copies has no part in it. -/
theorem extensions_filter {session wider : Session} (within : session.Within wider)
    (kind : NodeKind) (arguments : List Argument) :
    (Production.build session kind arguments = Production.build wider kind arguments ∨
        ∃ feature, session.features.contains feature = false ∧
          Production.build session kind arguments = .error (.disabled feature)) ∧
      (∀ node, Production.build session kind arguments = .ok node ↔
        Production.build { session with features := .full } kind arguments = .ok node ∧
          ∀ feature ∈ node.features, session.features.contains feature) ∧
      ∀ depth, Production.build { session with maxCopyDepth := depth } kind arguments
        = Production.build session kind arguments := by
  have full : session.Within { session with features := .full } :=
    fun feature _ => by cases feature <;> rfl
  refine ⟨(Production.build_filtered within kind arguments).alike,
    (Production.build_filtered full kind arguments).passes, fun depth => ?_⟩
  cases kind <;> rfl

/-- A grouping foreign key that is deferrable needs two extensions: with one of them alone it is
    refused for the other. -/
theorem extensions_filter_deferrable :
    ∃ feature, FeatureSet.contains { tableGrouping := true } feature = false ∧
      Production.build ⟨{ tableGrouping := true }, none⟩ .constraintDefinition
        [.tag "FOREIGN_KEY", .null, .node (.tableName ⟨none, .regular "p", {}⟩),
         .node (.columnList ⟨[.regular "a"], {}⟩), .null, .int 0, .int 2, .null, .bool true,
         .bool true, .bool false]
        = .error (.disabled feature) := by
  have within : Session.Within ⟨{ tableGrouping := true }, none⟩ ⟨.full, none⟩ :=
    fun feature _ => by cases feature <;> rfl
  have built : Production.build ⟨.full, none⟩ .constraintDefinition
      [.tag "FOREIGN_KEY", .null, .node (.tableName ⟨none, .regular "p", {}⟩),
       .node (.columnList ⟨[.regular "a"], {}⟩), .null, .int 0, .int 2, .null, .bool true,
       .bool true, .bool false]
      = .ok (.constraint ⟨none, .foreignKey ⟨⟨[.regular "a"], {}⟩, ⟨none, .regular "p", {}⟩, none,
          .cascade, .noAction, none, true, true, false⟩, {}⟩) := rfl
  obtain ⟨alike, passes, -⟩ := extensions_filter within .constraintDefinition _
  refine alike.resolve_left fun same => ?_
  have enabled := ((passes _).mp (same.trans built)).2 .deferrableConstraints (by decide)
  exact absurd enabled (by decide)

end DdlTree
