import DdlTree.Proofs.Equivalence
import DdlTree.Proofs.Reading

/-! # Refused productions

What a production is refused for. The refusal is about a node of the kind that was asked for, or
about an extension that the session does not enable, whoever noticed what is wrong. If it is about
an argument of the wrong shape, then it names the first misfit by its field and its number.
-/

namespace DdlTree

namespace Production

/-! ## The productions -/

section Productions

variable {session : Session} {inside : Nat × String → Prop}

theorem takes_tableName (arguments : List Argument) :
    Takes session .tableName inside 1 NodeKind.tableName.slots arguments (tableName arguments) := by
  rw [tableName.eq_def]
  split
  · exact .read (.identifier? _) fun _ => .read (.identifier _) fun _ =>
      .of_blames ((TableName.blames_build _ _).bind fun _ => .pure _)
  · exact .unplaced rfl

theorem takes_columnReference (arguments : List Argument) :
    Takes session .columnReference inside 1 NodeKind.columnReference.slots arguments
      (columnReference arguments) := by
  rw [columnReference.eq_def]
  split
  · exact .read (.node? Node.isSome_tableName? _) fun _ => .read (.identifier _) fun _ =>
      .of_blames ((Expr.blames_buildColumn _ _).bind fun _ => .pure _)
  · exact .unplaced rfl

theorem takes_numericConstant (arguments : List Argument) :
    Takes session .numericConstant inside 1 NodeKind.numericConstant.slots arguments
      (numericConstant arguments) := by
  rw [numericConstant.eq_def]
  split
  · exact .read (.textOrInt _) fun _ =>
      .of_blames ((Expr.blames_buildNumber _).bind fun _ => .pure _)
  · exact .unplaced rfl

theorem takes_stringConstant (arguments : List Argument) :
    Takes session .stringConstant inside 1 NodeKind.stringConstant.slots arguments
      (stringConstant arguments) := by
  rw [stringConstant.eq_def]
  split
  · exact .read (.text _) fun _ => .of_blames (.pure _)
  · exact .unplaced rfl

theorem takes_booleanConstant (arguments : List Argument) :
    Takes session .booleanConstant inside 1 NodeKind.booleanConstant.slots arguments
      (booleanConstant arguments) := by
  rw [booleanConstant.eq_def]
  split
  · exact .read (.bool _) fun _ => .of_blames (.pure _)
  · exact .unplaced rfl

theorem takes_nullConstant (arguments : List Argument) :
    Takes session .nullConstant inside 1 NodeKind.nullConstant.slots arguments
      (nullConstant arguments) := by
  rw [nullConstant.eq_def]
  split
  · exact .of_blames (.ok _)
  · exact .unplaced rfl

theorem takes_binaryOperator (arguments : List Argument) :
    Takes session .binaryOperator inside 1 NodeKind.binaryOperator.slots arguments
      (binaryOperator arguments) := by
  rw [binaryOperator.eq_def]
  split
  · exact .read (.tag _) fun _ => .read (.value _) fun _ => .read (.value _) fun _ =>
      .of_blames (.pure _)
  · exact .unplaced rfl

theorem takes_not (arguments : List Argument) :
    Takes session .not inside 1 NodeKind.not.slots arguments (not arguments) := by
  rw [not.eq_def]
  split
  · exact .read (.value _) fun _ => .of_blames (.pure _)
  · exact .unplaced rfl

theorem takes_isNull (arguments : List Argument) :
    Takes session .isNull inside 1 NodeKind.isNull.slots arguments (isNull arguments) := by
  rw [isNull.eq_def]
  split
  · exact .read (.value _) fun _ => .read (.bool _) fun _ => .of_blames (.pure _)
  · exact .unplaced rfl

theorem blames_plainColumn (node : Node) : Blames session .columnList (plainColumn node) := by
  rw [plainColumn.eq_def]
  split
  · exact .ok _
  · exact .malformed rfl
  · exact .malformed rfl

theorem takes_columnList (arguments : List Argument) :
    Takes session .columnList inside 1 NodeKind.columnList.slots arguments
      (columnList arguments) := by
  rw [columnList.eq_def]
  split
  · exact .read (.nodes _) fun nodes =>
      .of_blames ((Blames.mapM blames_plainColumn nodes).bind fun _ =>
        (ColumnList.blames_build _).bind fun _ => .pure _)
  · exact .unplaced rfl

theorem takes_indexColumn (arguments : List Argument) :
    Takes session .indexColumn inside 1 NodeKind.indexColumn.slots arguments
      (indexColumn arguments) := by
  rw [indexColumn.eq_def]
  split
  · exact .read (.node? Node.isSome_tableName? _) fun _ => .read (.identifier _) fun _ =>
      .read (.bool _) fun _ =>
        .of_blames ((IndexColumn.blames_build _ _ _).bind fun _ => .pure _)
  · exact .unplaced rfl

theorem takes_storageFormat (arguments : List Argument) :
    Takes session .storageFormat inside 1 NodeKind.storageFormat.slots arguments
      (storageFormat session arguments) := by
  rw [storageFormat.eq_def]
  split
  · exact .read (.identifier _) fun _ => .read (.options _) fun _ =>
      .of_blames ((StorageFormat.blames_build _ _).bind fun _ => .pure _)
  · exact .unplaced rfl

theorem takes_columnDefinition (arguments : List Argument) :
    Takes session .columnDefinition inside 1 NodeKind.columnDefinition.slots arguments
      (columnDefinition arguments) := by
  rw [columnDefinition.eq_def]
  split
  · exact .read (.identifier _) fun _ => .read (.word _) fun _ => .read (.int? _) fun _ =>
      .read (.int? _) fun _ => .check (DataType.blames_build _ _ _) fun _ =>
        .read (.bool _) fun _ => .read (.value? _) fun _ =>
          .of_blames ((ColumnDefinition.blames_build _ _ _ _).bind fun _ => .pure _)
  · exact .unplaced rfl

theorem takes_indexConstraint (arguments : List Argument) :
    Takes session .indexConstraint inside 1 NodeKind.indexConstraint.slots arguments
      (indexConstraint session arguments) := by
  rw [indexConstraint.eq_def]
  split
  · exact .read (.identifier _) fun _ => .read (.bool _) fun _ =>
      .read (.node Node.isSome_indexColumnList? _) fun _ => .read (.tag? _) fun _ =>
        .read (.node? Node.isSome_storageFormat? _) fun _ =>
          .of_blames ((IndexConstraint.blames_build _ _).bind fun _ => .pure _)
  · exact .unplaced rfl

theorem takes_createIndex (arguments : List Argument) :
    Takes session .createIndex inside 1 NodeKind.createIndex.slots arguments
      (createIndex session arguments) := by
  rw [createIndex.eq_def]
  split
  · exact .read (.bool _) fun _ => .read (.node Node.isSome_tableName? _) fun _ =>
      .read (.node Node.isSome_tableName? _) fun _ =>
        .read (.node Node.isSome_indexColumnList? _) fun _ => .read (.tag? _) fun _ =>
          .read (.options _) fun _ => .read (.existence _) fun _ =>
            .read (.node? Node.isSome_storageFormat? _) fun _ =>
              .of_blames ((CreateIndex.blames_build _).bind fun _ => .pure _)
  · exact .unplaced rfl

theorem takes_dropIndex (arguments : List Argument) :
    Takes session .dropIndex inside 1 NodeKind.dropIndex.slots arguments (dropIndex arguments) := by
  rw [dropIndex.eq_def]
  split
  · exact .read (.node Node.isSome_tableName? _) fun _ => .read (.existence _) fun _ =>
      .of_blames ((DropIndex.blames_build _ _).bind fun _ => .pure _)
  · exact .unplaced rfl

theorem blames_tableElement (node : Node) :
    Blames session .createTable (tableElement node) := by
  rw [tableElement.eq_def]
  split
  · exact .ok _
  · exact .ok _
  · exact .ok _
  · exact .malformed rfl

theorem takes_createTable (arguments : List Argument) :
    Takes session .createTable inside 1 NodeKind.createTable.slots arguments
      (createTable arguments) := by
  rw [createTable.eq_def]
  split
  · exact .read (.node Node.isSome_tableName? _) fun _ => .read (.existence _) fun _ =>
      .read (.nodes _) fun nodes => .check (.mapM blames_tableElement nodes) fun _ =>
        .read (.node? Node.isSome_storageFormat? _) fun _ =>
          .of_blames ((CreateTable.blames_build _ _ _ _).bind fun _ => .pure _)
  · exact .unplaced rfl

theorem takes_dropTable (arguments : List Argument) :
    Takes session .dropTable inside 1 NodeKind.dropTable.slots arguments (dropTable arguments) := by
  rw [dropTable.eq_def]
  split
  · exact .read (.node Node.isSome_tableName? _) fun _ => .read (.existence _) fun _ =>
      .read (.tag? _) fun _ =>
        .of_blames ((DropTable.blames_build _ _ _).bind fun _ => .pure _)
  · exact .unplaced rfl

theorem takes_indexColumnList (arguments : List Argument) :
    Takes session .indexColumnList inside 1 NodeKind.indexColumnList.slots arguments
      (indexColumnList arguments) := by
  rw [indexColumnList.eq_def]
  split
  case h_1 columns =>
    cases columns with
    | nodes nodes =>
        have reads : Takes session .indexColumnList inside 1 NodeKind.indexColumnList.slots
            [.nodes nodes] _ := .nodesOf Node.isSome_indexColumn? nodes
        exact reads.bind fun _ => (IndexColumnList.blames_build _).bind fun _ => .pure _
    | _ => exact .refuse rfl rfl
  case h_2 => exact .unplaced rfl

/-! ### Constraints -/

theorem takes_keyConstraint (body : ColumnList → ConstraintBody) (arguments : List Argument) :
    Takes session .constraintDefinition inside 1 SubKind.primaryKey.slots arguments
      (keyConstraint session body arguments) := by
  rw [keyConstraint.eq_def]
  split
  · exact .read (.node? Node.isSome_tableName? _) fun _ =>
      .read (.node Node.isSome_columnList? _) fun _ => .of_blames (Constraint.blames_build _ _)
  · exact .unplaced rfl

theorem takes_checkConstraint (arguments : List Argument) :
    Takes session .constraintDefinition inside 1 SubKind.check.slots arguments
      (checkConstraint session arguments) := by
  rw [checkConstraint.eq_def]
  split
  · exact .read (.node? Node.isSome_tableName? _) fun _ => .read (.value _) fun _ =>
      .of_blames (Constraint.blames_build _ _)
  · exact .unplaced rfl

theorem takes_foreignKeyConstraint (arguments : List Argument) :
    Takes session .constraintDefinition inside 1 SubKind.foreignKey.slots arguments
      (foreignKeyConstraint session arguments) := by
  rw [foreignKeyConstraint.eq_def]
  split
  · exact .read (.node? Node.isSome_tableName? _) fun _ =>
      .read (.node Node.isSome_tableName? _) fun _ =>
        .read (.node Node.isSome_columnList? _) fun _ =>
          .read (.node? Node.isSome_columnList? _) fun _ => .read (.action _) fun _ =>
            .read (.action _) fun _ => .read (.tag? _) fun _ => .read (.bool _) fun _ =>
              .read (.bool _) fun _ => .read (.bool _) fun _ =>
                .of_blames (Constraint.blames_build _ _)
  · exact .unplaced rfl

theorem takes_dropConstraint (arguments : List Argument) :
    Takes session .constraintDefinition inside 1 SubKind.drop.slots arguments
      (dropConstraint session arguments) := by
  rw [dropConstraint.eq_def]
  split
  · exact .read (.node? Node.isSome_tableName? _) fun _ => .read (.tag _) fun _ =>
      .read (.tag? _) fun _ => .read (.bool _) fun _ => .read (.existence _) fun _ =>
        .of_blames (Constraint.blames_build _ _)
  · exact .unplaced rfl

theorem takes_ofSubKind (subKind : SubKind) (arguments : List Argument) :
    Takes session .constraintDefinition inside 1 subKind.slots arguments
      (ofSubKind session subKind arguments) := by
  cases subKind with
  | primaryKey => exact takes_keyConstraint _ arguments
  | unique => exact takes_keyConstraint _ arguments
  | check => exact takes_checkConstraint arguments
  | foreignKey => exact takes_foreignKeyConstraint arguments
  | drop => exact takes_dropConstraint arguments

/-! ### Actions on tables -/

theorem blames_dropColumn (table : Option TableName) (column : Identifier)
    (existence : ExistenceCheck) :
    Blames session .alterTable (dropColumn table column existence) := by
  rw [dropColumn.eq_def]
  split
  · exact .malformed rfl
  · exact .ok _

theorem takes_checkedDropColumn (pair : List Argument) :
    Takes session .alterTable inside 1 dropSlots pair (checkedDropColumn pair) := by
  rw [checkedDropColumn.eq_def]
  split
  · refine .read (.existence _) fun _ => .read (.value _) fun column => .of_blames ?_
    split
    · exact blames_dropColumn _ _ _
    · exact .malformed rfl
  · exact .unplaced rfl

/-- An action is no argument of its own, but a pair has arguments inside. -/
theorem takes_alterAction {position : Nat} {item : Argument}
    (pairs : ∀ pair place, item = .list pair → misfit? 1 dropSlots pair = some place →
      inside place) :
    Takes session .alterTable inside position [] [] (alterAction item) := by
  rw [alterAction.eq_def]
  split
  case h_4 pair =>
    have taken : Takes session .alterTable (fun _ => False) 1 dropSlots pair _ :=
      takes_checkedDropColumn pair
    obtain ⟨-, concerns, placed⟩ := taken
    refine ⟨fun _ _ => rfl, concerns, fun error place refused same => .inr ⟨rfl, ?_⟩⟩
    obtain found | ⟨-, ⟨⟩⟩ := placed error place refused same
    exact pairs pair place rfl found
  case h_3 => exact .of_blames (blames_dropColumn _ _ _)
  case h_1 | h_2 => exact .of_blames (.ok _)
  case h_5 | h_6 => exact .of_blames (.malformed rfl)

theorem takes_actions (argument : Argument) :
    Takes session .alterTable inside 2 [.required "actions" .list] [argument]
      (actions argument) := by
  cases argument with
  | nodes nodes => exact .accept rfl
  | list items => exact .accept rfl
  | _ => exact .refuse rfl rfl

/-- Pairs are given in a list of arguments. -/
theorem eq_list_of_mem_actions {argument : Argument} {items : List Argument} {pair : List Argument}
    (read : actions argument = .ok items) (mem : .list pair ∈ items) : argument = .list items := by
  cases argument with
  | list others => exact congrArg _ (Except.ok.inj read)
  | nodes nodes =>
      obtain rfl := Except.ok.inj read
      simp at mem
  | _ => cases read

/-- A misfit inside a pair of the actions that a table is to be altered by. -/
def InPair (kind : NodeKind) (arguments : List Argument) (place : Nat × String) : Prop :=
  kind = .alterTable ∧ ∃ name items pair, arguments = [name, .list items] ∧ .list pair ∈ items ∧
    misfit? 1 dropSlots pair = some place

theorem takes_alterTable (arguments : List Argument) :
    Takes session .alterTable (InPair .alterTable arguments) 1 NodeKind.alterTable.slots arguments
      (alterTable arguments) := by
  rw [alterTable.eq_def]
  split
  case h_1 name argument =>
    refine .read (.node Node.isSome_tableName? _) fun _ => .readOf (takes_actions _) ?_
    intro items read
    have each : ∀ item ∈ items, Takes session .alterTable
        (InPair .alterTable [name, argument]) 3 [] [] (alterAction item) := by
      refine fun item mem => takes_alterAction fun pair place same found => ?_
      subst same
      exact ⟨rfl, name, items, pair, by rw [eq_list_of_mem_actions read mem], mem, found⟩
    exact (Takes.mapM each).bind fun _ => (AlterTable.blames_build _ _).bind fun _ => .pure _
  case h_2 => exact .unplaced rfl

/-- Every production but that of constraints counts its arguments as they are given. -/
theorem takes_build {kind : NodeKind} (other : kind ≠ .constraintDefinition)
    (arguments : List Argument) :
    Takes session kind (InPair kind arguments) 1 kind.slots arguments
      (build session kind arguments) := by
  cases kind with
  | tableName => exact takes_tableName arguments
  | columnReference => exact takes_columnReference arguments
  | numericConstant => exact takes_numericConstant arguments
  | stringConstant => exact takes_stringConstant arguments
  | booleanConstant => exact takes_booleanConstant arguments
  | nullConstant => exact takes_nullConstant arguments
  | binaryOperator => exact takes_binaryOperator arguments
  | not => exact takes_not arguments
  | isNull => exact takes_isNull arguments
  | columnList => exact takes_columnList arguments
  | indexColumn => exact takes_indexColumn arguments
  | indexColumnList => exact takes_indexColumnList arguments
  | storageFormat => exact takes_storageFormat arguments
  | columnDefinition => exact takes_columnDefinition arguments
  | constraintDefinition => exact absurd rfl other
  | indexConstraint => exact takes_indexConstraint arguments
  | createIndex => exact takes_createIndex arguments
  | dropIndex => exact takes_dropIndex arguments
  | createTable => exact takes_createTable arguments
  | dropTable => exact takes_dropTable arguments
  | alterTable => exact takes_alterTable arguments

end Productions

/-! ## What productions report -/

/-- The number under which the argument at a position is reported. Behind the argument that asks for
    a constraint, the arguments of the constraint are counted from one again. -/
def counted : NodeKind → Nat → Nat
  | .constraintDefinition, position + 2 => position + 1
  | _, position => position

/-- What building a node from arguments comes to: only arguments that fit yield a node, a refusal
    concerns the kind that was asked for, and a refused argument is the first misfit, or is inside a
    pair of arguments that all fit. -/
structure Reports (session : Session) (kind : NodeKind) (arguments : List Argument)
    (built : Except BuildError Node) : Prop where
  fits : ∀ node, built = .ok node → misfit? 1 (slots kind arguments) arguments = none
  concerns : ∀ error, built = .error error → error.Concerns session kind
  placed : ∀ error number field, built = .error error → error.place? = some (number, field) →
    (∃ position, misfit? 1 (slots kind arguments) arguments = some (position, field) ∧
      number = counted kind position) ∨
    misfit? 1 (slots kind arguments) arguments = none ∧ InPair kind arguments (number, field)

theorem slots_of_other {kind : NodeKind} (other : kind ≠ .constraintDefinition)
    (arguments : List Argument) : slots kind arguments = kind.slots := by
  rw [slots.eq_def]
  split
  · exact absurd rfl other
  · rfl

theorem counted_of_other {kind : NodeKind} (other : kind ≠ .constraintDefinition)
    (position : Nat) : counted kind position = position := by
  rw [counted.eq_def]
  split
  · exact absurd rfl other
  · rfl

theorem Reports.unplaced {session : Session} {kind : NodeKind} {arguments : List Argument}
    {fault : Fault} (unplaced : (BuildError.malformed kind fault).place? = none) :
    Reports session kind arguments (.error (.malformed kind fault)) := by
  refine ⟨fun _ built => (nomatch built), fun error refused => ?_,
    fun error number field refused placed => ?_⟩
  all_goals obtain rfl := Except.error.inj refused
  · rfl
  · rw [unplaced] at placed
    cases placed

theorem reports_constraintDefinition (session : Session) (arguments : List Argument) :
    Reports session .constraintDefinition arguments (constraintDefinition session arguments) := by
  rw [constraintDefinition.eq_def]
  split
  case h_1 => exact .unplaced rfl
  case h_2 tag rest =>
    split
    case h_1 subKind found =>
      have taken : Takes session .constraintDefinition (fun _ => False) 1 subKind.slots rest
          ((ofSubKind session subKind rest).map Node.constraint) :=
        (takes_ofSubKind subKind rest).map
      -- one argument stands in front of those that the constraint is read from
      have shifted : misfit? 1 (slots .constraintDefinition (.tag tag :: rest)) (.tag tag :: rest)
          = (misfit? 1 subKind.slots rest).map fun place => (place.1 + 1, place.2) := by
        rw [slots, found]
        exact (misfit?_of_admits rfl).trans (misfit?_succ 1 subKind.slots rest)
      refine ⟨fun node built => ?_, taken.concerns, fun error number field refused placed => ?_⟩
      · rw [shifted, taken.fits node built, Option.map_none]
      · obtain found | ⟨-, ⟨⟩⟩ := taken.placed error (number, field) refused placed
        obtain ⟨before, rfl⟩ := Nat.exists_eq_add_of_le' (le_of_misfit? found)
        exact .inl ⟨before + 2, by rw [shifted, found, Option.map_some], rfl⟩
    case h_2 => exact .unplaced rfl
  case h_3 other rest notTag =>
    have misfit : misfit? 1 (slots .constraintDefinition (other :: rest)) (other :: rest)
        = some (1, "sub_kind") := by
      cases other with
      | tag tag => exact absurd rfl (notTag tag)
      | _ => rfl
    refine ⟨fun _ built => (by cases built), fun error refused => ?_,
      fun error number field refused placed => ?_⟩
    all_goals obtain rfl := Except.error.inj refused
    · rfl
    · obtain ⟨rfl, rfl⟩ := Prod.mk.inj (Option.some.inj placed)
      exact .inl ⟨1, misfit, rfl⟩

theorem reports_build (session : Session) (kind : NodeKind) (arguments : List Argument) :
    Reports session kind arguments (build session kind arguments) := by
  by_cases constraint : kind = .constraintDefinition
  · subst constraint
    exact reports_constraintDefinition session arguments
  · have taken := @takes_build session kind constraint arguments
    rw [← slots_of_other constraint arguments] at taken
    refine ⟨taken.fits, taken.concerns, fun error number field refused placed => ?_⟩
    refine (taken.placed error (number, field) refused placed).imp_left fun found => ?_
    exact ⟨number, found, (counted_of_other constraint number).symm⟩

/-- A production yields a node of the kind that was asked for. Otherwise it is refused in the name
    of that kind, or for an extension that the session does not enable. -/
theorem build_concerns_own_kind (session : Session) (kind : NodeKind)
    (arguments : List Argument) :
    match build session kind arguments with
    | .ok node => node.kind = kind
    | .error (.malformed culprit _) => culprit = kind
    | .error (.disabled feature) => session.features.contains feature = false := by
  have reports := reports_build session kind arguments
  have yields := kind_of_build session kind arguments
  cases built : build session kind arguments with
  | ok node => exact yields node built
  | error error =>
      have concerns := reports.concerns error built
      cases error with
      | malformed culprit fault => exact concerns
      | disabled feature => exact concerns

/-- An argument that is refused for its shape is the first misfit, and it is reported under its
    position; only the arguments of a constraint are counted behind the one that asks for it. What
    is reported of arguments that all fit is a misfit inside a pair, by its position in the pair. -/
theorem misfit_reported {session : Session} {kind : NodeKind} {arguments : List Argument}
    {error : BuildError} {number : Nat} {field : String}
    (refused : build session kind arguments = .error error)
    (placed : error.place? = some (number, field)) :
    (∃ position, misfit? 1 (slots kind arguments) arguments = some (position, field) ∧
      number = counted kind position) ∨
    misfit? 1 (slots kind arguments) arguments = none ∧ InPair kind arguments (number, field) :=
  (reports_build session kind arguments).placed error number field refused placed

/-- A check whose name is neither a node nor null: the second argument is reported as the first. -/
theorem misfit_reported_check :
    let arguments : List Argument :=
      [.tag "CHECK", .bool true, .node (.expr (.column none (.regular "a") {}))]
    (∃ position, misfit? 1 (slots .constraintDefinition arguments) arguments
        = some (position, "name") ∧ 1 = counted .constraintDefinition position) ∨
      misfit? 1 (slots .constraintDefinition arguments) arguments = none ∧
        InPair .constraintDefinition arguments (1, "name") :=
  @misfit_reported {} .constraintDefinition _ _ 1 "name" rfl rfl

/-- The first and the second argument of a constraint are reported under the same number. -/
theorem constraint_arguments_share_number :
    let first : List Argument := [.bool true, .null, .node (.expr (.column none (.regular "a") {}))]
    let second : List Argument :=
      [.tag "CHECK", .bool true, .node (.expr (.column none (.regular "a") {}))]
    build {} .constraintDefinition first = .error (.malformed .constraintDefinition
        (.argumentShape 1 "sub_kind" .tag false "bool")) ∧
      misfit? 1 (slots .constraintDefinition first) first = some (1, "sub_kind") ∧
      build {} .constraintDefinition second = .error (.malformed .constraintDefinition
        (.argumentShape 1 "name" (.node .tableName) true "bool")) ∧
      misfit? 1 (slots .constraintDefinition second) second = some (2, "name") :=
  ⟨rfl, rfl, rfl, rfl⟩

end Production

end DdlTree
