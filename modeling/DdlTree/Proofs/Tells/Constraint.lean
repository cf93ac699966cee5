import DdlTree.Proofs.Tells.Part

/-! # What constraints tell

Definitions and drops of constraints, each told by its tokens. The first tokens say which of them it
is, and a foreign key that is deferred at first says so only behind the word that makes it
deferrable.
-/

namespace DdlTree

variable {style : Style}

/-! ## Keywords -/

theorem ExistenceCheck.tells {α : Type} (valid : α → Prop) (existence : α → ExistenceCheck) :
    Tells valid (· ≠ .word "IF") (fun a => Token.words (existence a).words) existence := by
  intro a b _ _ rest after starts startsAfter same
  cases isA : existence a <;> cases isB : existence b <;>
    simp only [isA, isB, words, Token.words, List.map_cons, List.map_nil, List.cons_append,
      List.nil_append, List.cons.injEq, Token.word.injEq, true_and] at same ⊢
  all_goals first
    | exact same
    | exact absurd rfl (starts _ (same ▸ rfl))
    | exact absurd rfl (startsAfter _ (same ▸ rfl))
    | simp at same

theorem DropBehavior.tells :
    Tells (fun _ => True) (fun _ => True)
      (fun behavior : DropBehavior => Token.words [behavior.keyword]) id := by
  refine .words _ (fun behavior : DropBehavior => [behavior.keyword]) (fun k l _ => ?_) id
  cases k <;> cases l <;> simp_all [Token.words, keyword]

theorem ExistenceCheck.starts {allowed : Token → Prop} (existence : ExistenceCheck)
    (head : allowed (.word "IF")) : Starts allowed (Token.words existence.words) := by
  cases existence with
  | noCondition => exact .nil
  | ifExists => exact .cons head
  | ifNotExists => exact .cons head

/-- The behavior of a drop. -/
theorem behaviorTokens_tells {α : Type} (valid : α → Prop) (behavior : α → Option DropBehavior) :
    Tells valid (· ∉ [.word "CASCADE", .word "RESTRICT"]) (fun a => behaviorTokens (behavior a))
      behavior := by
  have opens (behavior : DropBehavior) :
      ¬Token.word behavior.keyword ∉ [.word "CASCADE", .word "RESTRICT"] := by
    cases behavior <;> decide
  have whole := (DropBehavior.tells.optional (· ∉ [.word "CASCADE", .word "RESTRICT"])
    fun behavior _ => ⟨_, _, rfl, opens behavior⟩).of behavior fun a (_ : valid a) _ _ => trivial
  refine (whole.mono fun t out => ⟨trivial, out⟩).imp fun a b _ _ same => ?_
  simpa using same

theorem ReferentialAction.tells {α : Type} (valid : α → Prop) (action : α → ReferentialAction) :
    Tells valid (fun _ => True) (fun a => Token.words (action a).words) action := by
  refine .words valid words (fun k l _ => ?_) action
  cases k <;> cases l <;> simp_all [Token.words, words]

theorem MatchType.tells :
    Tells (fun _ => True) (fun _ => True)
      (fun type : MatchType => Token.words ["MATCH", type.keyword]) id := by
  refine .words _ (fun type : MatchType => ["MATCH", type.keyword]) (fun k l _ => ?_) id
  cases k <;> cases l <;> simp_all [Token.words, keyword]

/-- A foreign key from and to lists of columns that are not empty. -/
structure ForeignKey.Proper (key : ForeignKey) : Prop where
  rules : key.WellFormed
  columns : key.columns.columns ≠ []
  refColumns : ∀ list ∈ key.refColumns, list.columns ≠ []

theorem ForeignKey.tells (style : Style) :
    Tells Proper (· ∈ closing) (ForeignKey.tokens style) (ForeignKey.relabel style.mark) := by
  have grouping := Tells.wordsIf Proper "GROUPING" [] grouping
  have columns := (keyTokens_tells style).of columns fun _ => Proper.columns
  have refTable := (TableName.tells style).of refTable fun key (_ : key.Proper) => trivial
  have refColumns := ((keyTokens_tells style).optional_of_head fun _ => rfl).of refColumns
    fun _ => Proper.refColumns
  have matchType := (MatchType.tells.optional_of_head fun _ => rfl).of matchType
    fun key (_ : key.Proper) _ _ => trivial
  have deleteRule := ReferentialAction.tells Proper deleteRule
  have updateRule := ReferentialAction.tells Proper updateRule
  have deferrable := Tells.wordsIf Proper "DEFERRABLE" [] deferrable
  have deferred := Tells.wordsIf Proper "INITIALLY" ["DEFERRED"]
    fun key => key.deferrable && key.initiallyDeferred
  have upToKey := grouping.append_words "FOREIGN" ["KEY"] (by decide)
  have upToTable := ((upToKey.append columns fun _ _ _ _ => trivial).append_words "REFERENCES"
    [] (by decide)).append refTable fun _ _ _ _ => trivial
  have upToMatch := (upToTable.append refColumns
    fun _ _ => .optional (fun _ => .cons (by decide)) _).append matchType
    fun _ _ => .optional (fun _ => .cons (by decide)) _
  have upToDelete := (upToMatch.append_words "ON" ["DELETE"] (by decide)).append deleteRule
    fun _ _ _ _ => trivial
  have upToUpdate := (upToDelete.append_words "ON" ["UPDATE"] (by decide)).append updateRule
    fun _ _ _ _ => trivial
  have whole := (upToUpdate.append deferrable fun _ _ _ _ => ⟨trivial, trivial⟩).append deferred
    fun _ _ => .wordsIf _ _ (by decide)
  refine (whole.mono (by decide)).imp fun a b properA properB same => ?_
  simp only [Prod.mk.injEq, Option.map_id, id] at same
  obtain ⟨⟨⟨⟨⟨⟨⟨⟨grouping, columns⟩, refTable⟩, refColumns⟩, matchType⟩, deleteRule⟩, updateRule⟩,
    deferrable⟩, deferred⟩ := same
  have deferred : a.initiallyDeferred = b.initiallyDeferred := by
    have impliesA := properA.rules.deferrable
    have impliesB := properB.rules.deferrable
    grind
  rw [relabel, relabel, columns, refTable, refColumns, grouping, matchType, deleteRule, updateRule,
    deferrable, deferred]

theorem ConstraintType.tells {α : Type} (valid : α → Prop) (type : α → ConstraintType) :
    Tells valid (fun _ => True) (fun a => Token.words (type a).words) type := by
  refine .words valid words (fun k l _ => ?_) type
  cases k <;> cases l <;> simp_all [Token.words, words]

theorem behaviorTokens_starts {allowed : Token → Prop} (behavior : Option DropBehavior)
    (cascade : allowed (.word "CASCADE")) (restrict : allowed (.word "RESTRICT")) :
    Starts allowed (behaviorTokens behavior) := by
  refine .optional (fun behavior => ?_) behavior
  cases behavior with
  | cascade => exact .cons cascade
  | restrict => exact .cons restrict

/-- A drop with the name of its constraint. -/
theorem constraintDrop_tells (style : Style) :
    Tells (fun _ => True) (· ∈ closing)
      (fun drop : Option TableName × ConstraintDrop => drop.2.tokens style drop.1)
      (fun drop => (drop.1.map (TableName.relabel style.mark), drop.2)) := by
  have grouping := Tells.wordsIf (fun _ => True) "GROUPING" []
    fun drop : Option TableName × ConstraintDrop => drop.2.grouping
  have type := ConstraintType.tells (fun _ => True)
    fun drop : Option TableName × ConstraintDrop => drop.2.constraintType
  have existence := ExistenceCheck.tells (fun _ => True)
    fun drop : Option TableName × ConstraintDrop => drop.2.existence
  have opens (name : TableName) :
      ∃ t rest, name.tokens style = t :: rest ∧ ¬t.isKept := by
    obtain ⟨identifier, rest, isTokens⟩ := name.opens style
    exact ⟨_, rest, isTokens, by simp [style.isKept_token]⟩
  have name := ((TableName.tells style).optional (fun t => t.isKept) fun name _ => opens name).of
    (Prod.fst : Option TableName × ConstraintDrop → _) fun _ (_ : True) _ _ => trivial
  have behavior := behaviorTokens_tells (fun _ => True)
    fun drop : Option TableName × ConstraintDrop => drop.2.behavior
  have upToType := (grouping.words_append ["DROP"]).append type fun drop _ => by
    cases drop.2.constraintType <;> exact .cons (by decide)
  have upToExistence := upToType.append existence
    fun drop _ => drop.2.existence.starts (by decide)
  have upToName := upToExistence.append name fun _ _ => .optional (fun name => name.starts
    fun identifier => ⟨⟨style.token_ne (by decide) identifier, trivial⟩,
      style.token_ne (by decide) identifier⟩) _
  have whole := upToName.append behavior fun _ _ => behaviorTokens_starts _ (by decide) (by decide)
  refine (whole.mono (by decide)).imp fun a b _ _ same => ?_
  simp only [Prod.mk.injEq] at same
  obtain ⟨⟨⟨⟨grouping, type⟩, existence⟩, name⟩, behavior⟩ := same
  obtain ⟨nameA, dropA⟩ := a
  obtain ⟨nameB, dropB⟩ := b
  rw [Prod.mk.injEq, ConstraintDrop.mk.injEq]
  exact ⟨name, type, behavior, existence, grouping⟩

theorem ForeignKey.opens (style : Style) (key : ForeignKey) :
    ∃ t u rest, key.tokens style = t :: u :: rest ∧ t ∈ [.word "GROUPING", .word "FOREIGN"] ∧
      u ∈ [.word "FOREIGN", .word "KEY"] := by
  rw [tokens]
  cases key.grouping with
  | false => exact ⟨_, _, _, rfl, by decide, by decide⟩
  | true => exact ⟨_, _, _, rfl, by decide, by decide⟩

/-- The type of the constraint whose definition starts with the tokens. -/
def definedType? : List Token → Option ConstraintType
  | .word "PRIMARY" :: _ => some .primaryKey
  | .word "UNIQUE" :: _ => some .unique
  | .word "CHECK" :: _ => some .check
  | .word "FOREIGN" :: _ => some .foreignKey
  | .word "GROUPING" :: _ => some .foreignKey
  | _ => none

private theorem definedType?_tokens {constraint : Constraint}
    (definition : constraint.isDrop = false) (rest : List Token) :
    definedType? (constraint.body.tokens style ++ rest) = some constraint.constraintType := by
  obtain ⟨name, body, span⟩ := constraint
  cases body with
  | primaryKey | unique | check => rfl
  | foreignKey key =>
      obtain ⟨t, u, more, isTokens, head, -⟩ := key.opens style
      rw [ConstraintBody.tokens, isTokens]
      simp only [List.mem_cons, List.not_mem_nil, or_false] at head
      rcases head with rfl | rfl <;> rfl
  | drop d => simp [Constraint.isDrop] at definition

private theorem ForeignKey.proper {rule : DataType → Prop} {name : Option TableName}
    {key : ForeignKey} {span : Span}
    (valid : (Node.constraint ⟨name, .foreignKey key, span⟩).Valid rule) : key.Proper := by
  obtain ⟨rules, below⟩ := Node.valid_iff.mp valid
  simp only [Node.children, ConstraintBody.children, List.forall_mem_append,
    List.forall_mem_cons] at below
  obtain ⟨-, columns, -, refColumns⟩ := below
  refine ⟨rules, (Node.valid_iff.mp columns).1.nonempty, fun list given => ?_⟩
  have mem := List.mem_map_of_mem (f := Node.columnList) (Option.mem_toList.mpr given)
  exact (Node.valid_iff.mp (refColumns _ mem)).1.nonempty

/-- The body of a definition. -/
private theorem body_tells (style : Style) (rule : DataType → Prop) :
    Tells (fun c => (Node.constraint c).Valid rule ∧ c.isDrop = false) (· ∈ closing)
      (fun c => c.body.tokens style) (fun c => c.body.relabel style.mark) := by
  rintro ⟨nameA, bodyA, spanA⟩ ⟨nameB, bodyB, spanB⟩ ⟨validA, definitionA⟩ ⟨validB, definitionB⟩
    rest after starts startsAfter same
  have types := congrArg definedType? same
  rw [definedType?_tokens definitionA, definedType?_tokens definitionB, Option.some.injEq] at types
  have below {name : Option TableName} {body : ConstraintBody} {span : Span}
      (valid : (Node.constraint ⟨name, body, span⟩).Valid rule) :
      ∀ child ∈ body.children, child.Valid rule :=
    fun child mem => (Node.valid_iff.mp valid).2 child (List.mem_append_right _ mem)
  have nonempty {list : ColumnList} (valid : (Node.columnList list).Valid rule) :
      list.columns ≠ [] := (Node.valid_iff.mp valid).1.nonempty
  have free := starts.mono fun _ _ => trivial
  have freeAfter := startsAfter.mono fun _ _ => trivial
  cases bodyA with
  | primaryKey a => cases bodyB with
      | primaryKey b =>
          have key := ((keyTokens_tells style).words_append ["PRIMARY", "KEY"]).map
            ConstraintBody.primaryKey
          have nonemptyA := nonempty (below validA _ (List.mem_singleton_self _))
          have nonemptyB := nonempty (below validB _ (List.mem_singleton_self _))
          exact key nonemptyA nonemptyB free freeAfter same
      | _ => simp [Constraint.constraintType, Constraint.isDrop] at types definitionB
  | unique a => cases bodyB with
      | unique b =>
          have key := ((keyTokens_tells style).words_append ["UNIQUE"]).map ConstraintBody.unique
          have nonemptyA := nonempty (below validA _ (List.mem_singleton_self _))
          have nonemptyB := nonempty (below validB _ (List.mem_singleton_self _))
          exact key nonemptyA nonemptyB free freeAfter same
      | _ => simp [Constraint.constraintType, Constraint.isDrop] at types definitionB
  | check a => cases bodyB with
      | check b =>
          have inParens := (Expr.tells style rule).parens (by decide)
          have condition := (inParens.words_append ["CHECK"]).map ConstraintBody.check
          exact condition (below validA _ (List.mem_singleton_self _))
            (below validB _ (List.mem_singleton_self _)) free freeAfter same
      | _ => simp [Constraint.constraintType, Constraint.isDrop] at types definitionB
  | foreignKey a => cases bodyB with
      | foreignKey b =>
          have key := (ForeignKey.tells style).map ConstraintBody.foreignKey
          exact key (ForeignKey.proper validA) (ForeignKey.proper validB) starts startsAfter same
      | _ => simp [Constraint.constraintType, Constraint.isDrop] at types definitionB
  | drop d => simp [Constraint.isDrop] at definitionA

/-- The tokens that a definition of a constraint can start with. -/
def definitionHeads : List Token :=
  Token.words ["CONSTRAINT", "PRIMARY", "UNIQUE", "CHECK", "GROUPING", "FOREIGN"]

private theorem body_opens (style : Style) {constraint : Constraint}
    (definition : constraint.isDrop = false) :
    ∃ t u rest, constraint.body.tokens style = t :: u :: rest ∧ t ∈ definitionHeads ∧
      t ≠ .word "CONSTRAINT" ∧ u ∉ [.word "INDEX", .word "COLUMN"] := by
  obtain ⟨name, body, span⟩ := constraint
  cases body with
  | primaryKey | unique | check => exact ⟨_, _, _, rfl, by decide, by decide, by decide⟩
  | foreignKey key =>
      obtain ⟨t, u, rest, isTokens, head, second⟩ := key.opens style
      have heads : ∀ t ∈ [Token.word "GROUPING", .word "FOREIGN"],
          t ∈ definitionHeads ∧ t ≠ .word "CONSTRAINT" := by decide
      have seconds : ∀ u ∈ [Token.word "FOREIGN", .word "KEY"],
          u ∉ [Token.word "INDEX", .word "COLUMN"] := by decide
      exact ⟨t, u, rest, isTokens, (heads t head).1, (heads t head).2, seconds u second⟩
  | drop d => simp [Constraint.isDrop] at definition

private theorem tokens_of_definition (style : Style) {constraint : Constraint}
    (definition : constraint.isDrop = false) :
    constraint.tokens style
      = constraintNameTokens style constraint.name ++ constraint.body.tokens style := by
  obtain ⟨name, body, span⟩ := constraint
  cases body with
  | drop d => simp [Constraint.isDrop] at definition
  | _ => rfl

private theorem definition_tells (style : Style) (rule : DataType → Prop) :
    Tells (fun c => (Node.constraint c).Valid rule ∧ c.isDrop = false) (· ∈ closing)
      (Constraint.tokens style) (Constraint.relabel style.mark) := by
  have optional := ((TableName.tells style).words_append ["CONSTRAINT"]).optional_of_head
    fun _ => rfl
  have name := optional.of Constraint.name
    fun c (_ : (Node.constraint c).Valid rule ∧ c.isDrop = false) _ _ => trivial
  have apart : ∀ t ∈ definitionHeads, t ∉ exprMarks := by decide
  have whole := name.append (body_tells style rule) fun c definition => by
    obtain ⟨t, u, rest, isTokens, head, notName, -⟩ := body_opens style definition.2
    exact isTokens ▸ .cons ⟨apart t head, notName⟩
  refine ((whole.mono (by decide)).imp fun a b _ _ same => ?_).congr fun c definition =>
    tokens_of_definition style definition.2
  rw [Prod.mk.injEq] at same
  rw [Constraint.relabel, Constraint.relabel, same.1, same.2]

/-- A constraint starts with two tokens that tell whether it is a drop, and that it is neither a
    column nor an index. -/
theorem Constraint.opens (style : Style) (constraint : Constraint) :
    ∃ t u rest, constraint.tokens style = t :: u :: rest ∧
      t ∈ .word "DROP" :: definitionHeads ∧ (t = .word "DROP" ↔ constraint.isDrop) ∧
      u ∉ [.word "INDEX", .word "COLUMN"] := by
  cases drops : constraint.isDrop with
  | false =>
      rw [tokens_of_definition style drops]
      obtain ⟨t, u, rest, isTokens, head, -, second⟩ := body_opens style drops
      have notDrop : ∀ t ∈ definitionHeads, t ≠ .word "DROP" := by decide
      cases constraint.name with
      | none =>
          exact ⟨t, u, rest, isTokens, List.mem_cons_of_mem _ head, by simp [notDrop t head],
            second⟩
      | some name =>
          obtain ⟨identifier, more, isName⟩ := name.opens style
          refine ⟨.word "CONSTRAINT", style.token identifier, more ++ constraint.body.tokens style,
            ?_, by decide, by decide, style.token_notMem (by decide) identifier⟩
          simp [constraintNameTokens, Token.optional, Token.words, isName]
  | true =>
      obtain ⟨name, body, span⟩ := constraint
      cases body with
      | drop d =>
          obtain ⟨type, behavior, existence, grouping⟩ := d
          cases grouping <;> cases type <;>
            exact ⟨_, _, _, rfl, by decide, by decide, by decide⟩
      | _ => simp [isDrop] at drops

/-- No drop starts like a definition. -/
private theorem drop_ne_definition (style : Style) {a b : Constraint} (drop : a.isDrop)
    (definition : b.isDrop = false) (rest after : List Token) :
    a.tokens style ++ rest ≠ b.tokens style ++ after := by
  intro same
  obtain ⟨t, u, more, isTokensA, -, dropA, -⟩ := a.opens style
  obtain ⟨t', u', more', isTokensB, -, dropB, -⟩ := b.opens style
  rw [isTokensA, isTokensB] at same
  obtain rfl := (List.cons.inj same).1
  rw [dropA, drop, definition] at dropB
  simp at dropB

theorem Constraint.tells (style : Style) (rule : DataType → Prop) :
    Tells (fun c => (Node.constraint c).Valid rule) (· ∈ closing) (Constraint.tokens style)
      (Constraint.relabel style.mark) := by
  intro a b validA validB rest after starts startsAfter same
  cases dropA : a.isDrop with
  | false => cases dropB : b.isDrop with
      | false =>
          exact definition_tells style rule ⟨validA, dropA⟩ ⟨validB, dropB⟩ starts startsAfter same
      | true => exact absurd same.symm (drop_ne_definition style dropB dropA after rest)
  | true => cases dropB : b.isDrop with
      | false => exact absurd same (drop_ne_definition style dropA dropB rest after)
      | true =>
          obtain ⟨nameA, bodyA, spanA⟩ := a
          obtain ⟨nameB, bodyB, spanB⟩ := b
          cases bodyA with
          | drop d => cases bodyB with
              | drop e =>
                  have drops := (constraintDrop_tells style).map
                    fun drop => (⟨drop.1, .drop drop.2, {}⟩ : Constraint)
                  exact drops (a := (nameA, d)) (b := (nameB, e)) trivial trivial starts startsAfter
                    same
              | _ => simp [isDrop] at dropB
          | _ => simp [isDrop] at dropA

end DdlTree
