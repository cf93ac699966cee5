import DdlTree.Proofs.Parts

/-! # Productions build what constructors build

A production yields a node of its own kind that a constructor builds, and every node that a
constructor builds comes out of the production of its kind when its own parts are handed over. So
there is one set of nodes, whichever way they are built.
-/

namespace DdlTree

/-! ## Kinds -/

/-- Whatever a step yields has a property. -/
def Yields {α : Type} (P : α → Prop) (step : Except BuildError α) : Prop :=
  ∀ value, step = .ok value → P value

namespace Yields

variable {α β : Type} {P : β → Prop} {Q : α → Prop}

theorem refused {error : BuildError} : Yields P (.error error) :=
  nofun

theorem pure {value : β} (holds : P value) : Yields P (Pure.pure value) :=
  fun _ same => pure_eq_ok.mp same ▸ holds

theorem bind {first : Except BuildError α} {next : α → Except BuildError β}
    (each : ∀ value, Yields P (next value)) : Yields P (first >>= next) := by
  intro result built
  obtain ⟨value, -, built⟩ := bind_eq_ok.mp built
  exact each value result built

/-- What the first step yields is known to the next one. -/
theorem bindOf {first : Except BuildError α} {next : α → Except BuildError β}
    (known : Yields Q first) (each : ∀ value, Q value → Yields P (next value)) :
    Yields P (first >>= next) := by
  intro result built
  obtain ⟨value, read, built⟩ := bind_eq_ok.mp built
  exact each value (known value read) result built

theorem map {first : Except BuildError α} {f : α → β} (each : ∀ value, P (f value)) :
    Yields P (first.map f) := by
  intro result built
  obtain ⟨value, -, rfl⟩ := map_eq_ok.mp built
  exact each value

end Yields

theorem Expr.kind_of_buildColumn (table : Option TableName) (name : Identifier) :
    Yields (fun e => e.kind = .columnReference) (buildColumn table name) := by
  intro e built
  obtain ⟨-, rfl⟩ := buildColumn_eq_ok.mp built
  rfl

theorem Expr.kind_of_buildNumber (text : String) :
    Yields (fun e => e.kind = .numericConstant) (buildNumber text) := by
  intro e built
  obtain ⟨-, rfl⟩ := buildNumber_eq_ok.mp built
  rfl

namespace Production

/-- A production yields nodes of its kind. -/
theorem kind_of_build (session : Session) (kind : NodeKind) (arguments : List Argument) :
    Yields (fun node => node.kind = kind) (build session kind arguments) := by
  cases kind
  case columnReference =>
    rw [build, columnReference.eq_def]
    split
    · exact .bind fun _ => .bind fun _ => .bindOf (Expr.kind_of_buildColumn _ _) fun _ known =>
        .pure known
    · exact .refused
  case numericConstant =>
    rw [build, numericConstant.eq_def]
    split
    · exact .bind fun _ => .bindOf (Expr.kind_of_buildNumber _) fun _ known => .pure known
    · exact .refused
  case constraintDefinition =>
    rw [build, constraintDefinition.eq_def]
    split
    · exact .refused
    · split
      · exact .map fun _ => rfl
      · exact .refused
    · exact .refused
  -- the others read their arguments one by one and then wrap what they build
  all_goals
    simp only [build, tableName.eq_def, stringConstant.eq_def, booleanConstant.eq_def,
      nullConstant.eq_def, binaryOperator.eq_def, not.eq_def, isNull.eq_def, columnList.eq_def,
      indexColumn.eq_def, indexColumnList.eq_def, storageFormat.eq_def, columnDefinition.eq_def,
      indexConstraint.eq_def, createIndex.eq_def, dropIndex.eq_def, createTable.eq_def,
      dropTable.eq_def, alterTable.eq_def]
    split
    · repeat refine .bind fun _ => ?_
      exact .pure rfl
    · exact .refused

/-! ## Named columns -/

section Named

variable {session : Session} {kind : NodeKind} {arguments : List Argument} {node : Node}

/-- A column that a node names stands among the arguments as a reference. -/
theorem reference_of_named {column : Identifier} (built : build session kind arguments = .ok node)
    (named : column ∈ node.namedColumns) :
    ∃ span, .expr (.column none column span) ∈ Argument.nodesOfAll arguments := by
  obtain rfl := kind_of_build session kind arguments node built
  rcases Node.kind_of_named named with isList | isAlter
  · rw [isList] at built
    exact reference_of_columnList built named
  · rw [isAlter] at built
    exact reference_of_alterTable built named

/-- A node that is built from its own children names no columns. -/
theorem namedColumns_of_own {span : Span} (own : Argument.nodesOfAll arguments ⊆ node.children)
    (built : buildAt session span kind arguments = .ok node) : node.namedColumns = [] := by
  obtain ⟨fresh, yielded, rfl⟩ := map_eq_ok.mp built
  refine List.eq_nil_iff_forall_not_mem.mpr fun column named => ?_
  have namedFresh : column ∈ fresh.namedColumns := by rwa [Node.namedColumns_withSpan] at named
  obtain ⟨position, refers⟩ := reference_of_named yielded namedFresh
  exact Node.expr_notMem_children named _ (own refers)

end Named

/-! ## Arguments -/

open Place

variable {session : Session}

/-- A constraint is read from its name and the arguments of its body. -/
private theorem ofSubKind_arguments {name : Option TableName} {body : ConstraintBody}
    {constraint : Constraint} (built : Constraint.build session name body = .ok constraint) :
    ofSubKind session body.subKind (.ofOption (.node ∘ .tableName) name :: body.arguments)
      = .ok constraint := by
  have named : constraintName (.ofOption (.node ∘ .tableName) name) = .ok name :=
    node?_of Node.tableName? .tableName (fun _ => rfl) name
  cases body with
  | primaryKey columns | unique columns | check condition => exact bind_ok named built
  | foreignKey key =>
      have refColumns : (constraintPlace 4 "ref_columns").node? .columnList Node.columnList?
          (.ofOption (.node ∘ .columnList) key.refColumns) = .ok key.refColumns :=
        node?_of Node.columnList? .columnList (fun _ => rfl) key.refColumns
      exact bind_ok named (bind_ok rfl (bind_ok rfl (bind_ok refColumns (bind_ok (action_of _)
        (bind_ok (action_of _) (bind_ok (tag?_of MatchType.complete_vocabulary _) built))))))
  | drop d =>
      exact bind_ok named (bind_ok (tag_of ConstraintType.complete_vocabulary _)
        (bind_ok (tag?_of DropBehavior.complete_vocabulary _) (bind_ok rfl
          (bind_ok (existence_of _) built))))

/-- The node of a column comes out of a reference to it. -/
private theorem alterAction_argument {action : AlterAction} (rules : action.WellFormed) :
    alterAction action.argument = .ok action := by
  cases action with
  | addConstraint constraint =>
      have define : constraint.isDrop = false := rules
      rw [AlterAction.argument, alterAction, AlterAction.ofConstraint, define]
      rfl
  | dropConstraint constraint =>
      have drop : constraint.isDrop = true := rules
      rw [AlterAction.argument, alterAction, AlterAction.ofConstraint, drop]
      rfl
  | addColumn column => rfl
  | dropColumn column existence => exact bind_ok (existence_of existence) rfl

/-- What a constructor builds comes out of the production of its kind, at no position. -/
theorem build_arguments {node : Node} (constructed : Constructed DataType.Obtained session node) :
    build session node.kind node.arguments = .ok (node.withSpan {}) := by
  have storage (place : Place) (format? : Option StorageFormat) :
      place.node? .storageFormat Node.storageFormat? (.ofOption (.node ∘ .storageFormat) format?)
        = .ok format? := node?_of Node.storageFormat? .storageFormat (fun _ => rfl) format?
  have table (place : Place) (table? : Option TableName) :
      place.node? .tableName Node.tableName? (.ofOption (.node ∘ .tableName) table?)
        = .ok table? := node?_of Node.tableName? .tableName (fun _ => rfl) table?
  have tableName {schema : Option Identifier} {name : Identifier} {table : TableName}
      (built : TableName.build schema name = .ok table) :
      build session .tableName (Node.tableName table).arguments
        = .ok ((Node.tableName table).withSpan {}) := by
    obtain ⟨-, rfl⟩ := TableName.build_eq_ok.mp built
    exact bind_ok (identifier?_of _) (bind_ok (identifier_of _) (bind_ok built rfl))
  cases constructed with
  | tableName built => exact tableName built
  | dottedName built =>
      rw [TableName.parse] at built
      split at built
      · exact tableName built
      · exact tableName (refuse_eq_ok.mp built).2
  | column built =>
      obtain ⟨-, rfl⟩ := Expr.buildColumn_eq_ok.mp built
      exact bind_ok (table _ _) (bind_ok (identifier_of _) (bind_ok built rfl))
  | number built =>
      obtain ⟨-, rfl⟩ := Expr.buildNumber_eq_ok.mp built
      exact bind_ok rfl (bind_ok built rfl)
  | string | boolean | null | not | isNull => rfl
  | binary op left right => exact bind_ok (tag_of BinaryOp.complete_vocabulary op) rfl
  | columnList built =>
      obtain ⟨-, rfl⟩ := ColumnList.build_eq_ok.mp built
      exact bind_ok rfl (bind_ok (mapM_map_eq_ok fun _ _ => rfl) (bind_ok built rfl))
  | indexColumn built =>
      obtain ⟨-, rfl⟩ := IndexColumn.build_eq_ok.mp built
      exact bind_ok (table _ _) (bind_ok (identifier_of _) (bind_ok rfl (bind_ok built rfl)))
  | indexColumnList built =>
      obtain ⟨-, rfl⟩ := IndexColumnList.build_eq_ok.mp built
      exact bind_ok rfl (bind_ok (mapM_map_eq_ok fun _ _ => rfl) (bind_ok built rfl))
  | storageFormat built =>
      obtain ⟨-, -, -, rfl⟩ := StorageFormat.build_eq_ok.mp built
      exact bind_ok (identifier_of _) (bind_ok rfl (bind_ok built rfl))
  | columnDefinition obtained built =>
      obtain ⟨-, rfl⟩ := (ColumnDefinition.build_eq_ok obtained).mp built
      exact bind_ok (identifier_of _) (bind_ok rfl (bind_ok (int?_of _) (bind_ok (int?_of _)
        (bind_ok (DataType.build_keyword obtained.inRange) (bind_ok rfl (bind_ok (value?_of _)
          (bind_ok built rfl)))))))
  | constraint built =>
      obtain ⟨-, -, rfl⟩ := Constraint.build_eq_ok.mp built
      rw [Node.kind, build, Node.arguments, Constraint.arguments, constraintDefinition, lookup_tag]
      exact map_eq_ok.mpr ⟨_, ofSubKind_arguments built, rfl⟩
  | indexConstraint built =>
      obtain ⟨-, -, rfl⟩ := IndexConstraint.build_eq_ok.mp built
      exact bind_ok (identifier_of _) (bind_ok rfl (bind_ok rfl
        (bind_ok (tag?_of JoinType.complete_vocabulary _) (bind_ok (storage _ _)
          (bind_ok built rfl)))))
  | @createIndex _ create built =>
      obtain ⟨rules, enabled, plain, rfl⟩ := CreateIndex.build_eq_ok.mp built
      have fresh : CreateIndex.build session { create with span := {} }
          = .ok { create with span := {} } := CreateIndex.build_eq_ok.mpr
        ⟨⟨rules.existence, rules.index, rules.ownColumns⟩, enabled, plain, rfl⟩
      exact bind_ok rfl (bind_ok rfl (bind_ok rfl (bind_ok rfl
        (bind_ok (tag?_of JoinType.complete_vocabulary _) (bind_ok rfl (bind_ok (existence_of _)
          (bind_ok (storage _ _) (bind_ok fresh rfl))))))))
  | dropIndex built =>
      obtain ⟨-, rfl⟩ := DropIndex.build_eq_ok.mp built
      exact bind_ok rfl (bind_ok (existence_of _) (bind_ok built rfl))
  | createTable built =>
      obtain ⟨-, rfl⟩ := CreateTable.build_eq_ok.mp built
      exact bind_ok rfl (bind_ok (existence_of _) (bind_ok rfl
        (bind_ok (mapM_map_eq_ok fun element _ => by cases element <;> rfl)
          (bind_ok (storage _ _) (bind_ok built rfl)))))
  | dropTable built =>
      obtain ⟨-, rfl⟩ := DropTable.build_eq_ok.mp built
      exact bind_ok rfl (bind_ok (existence_of _)
        (bind_ok (tag?_of DropBehavior.complete_vocabulary _) (bind_ok built rfl)))
  | alterTable built =>
      obtain ⟨rules, rfl⟩ := AlterTable.build_eq_ok.mp built
      exact bind_ok rfl (bind_ok rfl (bind_ok
        (mapM_map_eq_ok fun action mem => alterAction_argument (rules.actions action mem))
          (bind_ok built rfl)))

end Production

theorem Node.withSpan_withSpan (before after : Span) (node : Node) :
    (node.withSpan before).withSpan after = node.withSpan after := by
  cases node with
  | expr e => cases e <;> rfl
  | statement s => cases s <;> rfl
  | _ => rfl

/-- At any position, a constructed node comes out of its own arguments. -/
theorem Constructed.buildAt_arguments {session : Session} {node : Node}
    (constructed : Constructed DataType.Obtained session node) (span : Span) :
    Production.buildAt session span node.kind node.arguments = .ok (node.withSpan span) :=
  map_eq_ok.mpr ⟨_, Production.build_arguments constructed, node.withSpan_withSpan {} span⟩

/-- Productions and constructors build the same nodes: at a position, the production of a kind
    yields what one call of a constructor of that kind yields under the session, and nothing else.
    Such a node comes out of its own arguments. The scalars in these are its own, and the nodes are
    its children, as they are, and references to the columns that it names. So its own scalars and
    children are enough exactly if it names no columns. -/
theorem production_iff_constructed (session : Session) (kind : NodeKind) (span : Span)
    (node : Node) :
    ((∃ arguments, Production.buildAt session span kind arguments = .ok node) ↔
        ∃ fresh, Constructed DataType.Obtained session fresh ∧ fresh.kind = kind ∧
          fresh.withSpan span = node) ∧
      ((∃ arguments, Production.buildAt session span kind arguments = .ok node) →
        (Production.buildAt session node.span node.kind node.arguments = .ok node ∧
          Argument.scalarsOfAll node.arguments ⊆ node.scalars ∧
          ∀ part ∈ Argument.nodesOfAll node.arguments, part ∈ node.children ∨
            ∃ column ∈ node.namedColumns, part = column.reference) ∧
        ((∃ arguments, Argument.scalarsOfAll arguments ⊆ node.scalars ∧
            Argument.nodesOfAll arguments ⊆ node.children ∧
            Production.buildAt session node.span node.kind arguments = .ok node) ↔
          node.namedColumns = [])) := by
  have constructed {arguments : List Argument}
      (built : Production.buildAt session span kind arguments = .ok node) :
      ∃ fresh, Constructed DataType.Obtained session fresh ∧ fresh.kind = kind ∧
        fresh.withSpan span = node := by
    obtain ⟨fresh, yielded, rfl⟩ := map_eq_ok.mp built
    have made := Production.build_madeFrom (fun _ => id) yielded
    have sameKind := Production.kind_of_build session kind arguments fresh yielded
    exact ⟨fresh, made.constructed, sameKind, rfl⟩
  refine ⟨⟨fun ⟨_, built⟩ => constructed built, ?_⟩, ?_⟩
  · rintro ⟨fresh, isConstructed, rfl, rfl⟩
    exact ⟨fresh.arguments, isConstructed.buildAt_arguments span⟩
  · rintro ⟨arguments, built⟩
    have ownArguments :
        Production.buildAt session node.span node.kind node.arguments = .ok node := by
      obtain ⟨fresh, isConstructed, -, rfl⟩ := constructed built
      rw [Node.span_withSpan, Node.kind_withSpan, Node.arguments_withSpan]
      exact isConstructed.buildAt_arguments span
    refine ⟨⟨ownArguments, node.scalarsOfAll_arguments, fun part mem => ?_⟩, ?_, fun silent => ?_⟩
    · rcases List.mem_append.mp (node.nodesOfAll_arguments mem) with child | reference
      · exact .inl child
      · obtain ⟨column, named, rfl⟩ := List.mem_map.mp reference
        exact .inr ⟨column, named, rfl⟩
    · rintro ⟨others, -, children, built⟩
      exact Production.namedColumns_of_own children built
    · have children := node.nodesOfAll_arguments
      rw [silent, List.map_nil, List.append_nil] at children
      exact ⟨node.arguments, node.scalarsOfAll_arguments, children, ownArguments⟩

/-- An alteration that drops a column under an existence check, and a primary key without its name:
    the arguments in the form that says so are those of the statement. -/
theorem production_iff_constructed_drops :
    Production.buildAt {} ⟨3, 60⟩ .alterTable
        [.node (.tableName ⟨none, .regular "t", ⟨15, 16⟩⟩),
         .list [.list [.tag "IF_EXISTS", .node (.expr (.column none (.delimited "c") {}))],
           .node (.constraint ⟨none, .drop ⟨.primaryKey, none, .noCondition, false⟩, ⟨42, 58⟩⟩)]]
      = .ok (.statement (.alterTable ⟨⟨none, .regular "t", ⟨15, 16⟩⟩,
          [.dropColumn (.delimited "c") .ifExists,
           .dropConstraint ⟨none, .drop ⟨.primaryKey, none, .noCondition, false⟩, ⟨42, 58⟩⟩],
          ⟨3, 60⟩⟩)) := by
  have built : AlterTable.build ⟨none, .regular "t", ⟨15, 16⟩⟩
      [.dropColumn (.delimited "c") .ifExists,
       .dropConstraint ⟨none, .drop ⟨.primaryKey, none, .noCondition, false⟩, ⟨42, 58⟩⟩] = .ok _ :=
    rfl
  have both := production_iff_constructed {} .alterTable ⟨3, 60⟩ (.statement (.alterTable
    ⟨⟨none, .regular "t", ⟨15, 16⟩⟩,
      [.dropColumn (.delimited "c") .ifExists,
       .dropConstraint ⟨none, .drop ⟨.primaryKey, none, .noCondition, false⟩, ⟨42, 58⟩⟩],
      ⟨3, 60⟩⟩))
  exact (both.2 (both.1.mpr ⟨_, .alterTable built, rfl, rfl⟩)).1.1

/-- A list of key columns and a drop of a column: a production yields each of them, but not from
    scalars and children of theirs. -/
theorem own_parts_not_enough :
    let key : Node := .columnList { columns := [.regular "a"] }
    let drop : Node := .statement (.alterTable
      { name := { schema := none, name := .regular "t" },
        actions := [.dropColumn (.regular "a") .noCondition] })
    ((∃ arguments, Production.buildAt {} {} key.kind arguments = .ok key) ∧
      ¬∃ arguments, Argument.scalarsOfAll arguments ⊆ key.scalars ∧
        Argument.nodesOfAll arguments ⊆ key.children ∧
        Production.buildAt {} key.span key.kind arguments = .ok key) ∧
    (∃ arguments, Production.buildAt {} {} drop.kind arguments = .ok drop) ∧
      ¬∃ arguments, Argument.scalarsOfAll arguments ⊆ drop.scalars ∧
        Argument.nodesOfAll arguments ⊆ drop.children ∧
        Production.buildAt {} drop.span drop.kind arguments = .ok drop := by
  intro key drop
  refine ⟨⟨⟨key.arguments, rfl⟩, ?_⟩, ⟨drop.arguments, rfl⟩, ?_⟩
  · rintro ⟨arguments, -, children, built⟩
    exact List.cons_ne_nil _ _ (Production.namedColumns_of_own children built)
  · rintro ⟨arguments, -, children, built⟩
    exact List.cons_ne_nil _ _ (Production.namedColumns_of_own children built)

end DdlTree
