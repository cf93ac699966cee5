import DdlTree.Proofs.RenderStatement
import DdlTree.Proofs.Tells.Constraint

/-! # Rendered statements lose nothing

The tokens of a statement tell the statement up to positions and marks: every optional part starts
with a token that cannot come next where it is missing, every list is closed, and every kind of
statement has its own first words. So statements that are rendered alike are the same.
-/

namespace DdlTree

variable {style : Style}

/-! ## Elements and actions -/

/-- The kind of the element of a table that starts with the tokens. -/
def elementKind : List Token → NodeKind
  | t :: u :: _ =>
      if !t.isKept then .columnDefinition
      else if t = .word "INDEX" ∨ u = .word "INDEX" then .indexConstraint
      else .constraintDefinition
  | _ => .columnDefinition

private theorem elementKind_tokens (element : TableElement) (rest : List Token) :
    elementKind (element.tokens style ++ rest) = element.kind := by
  cases element with
  | column c =>
      have isTokens : ∃ more, c.tokens style ++ rest
          = style.token c.name :: .word c.dataType.keyword :: more := ⟨_, rfl⟩
      obtain ⟨more, isTokens⟩ := isTokens
      rw [TableElement.tokens, isTokens, elementKind, style.isKept_token]
      rfl
  | constraint c =>
      obtain ⟨t, u, more, isTokens, head, -, second⟩ := c.opens style
      have heads : ∀ t ∈ .word "DROP" :: definitionHeads, t.isKept ∧ t ≠ .word "INDEX" := by decide
      have both := heads t head
      have other : ¬(t = .word "INDEX" ∨ u = .word "INDEX") := by
        rintro (same | rfl)
        · exact both.2 same
        · exact second List.mem_cons_self
      rw [TableElement.tokens, isTokens, List.cons_append, List.cons_append, elementKind, both.1,
        if_neg (by decide), if_neg other]
      rfl
  | index i =>
      rw [TableElement.tokens, IndexConstraint.tokens]
      cases i.index.unique <;> rfl

theorem TableElement.tells (style : Style) (rule : DataType → Prop) :
    Tells (fun element => element.node.Valid rule) (· ∈ closing) (TableElement.tokens style)
      (TableElement.relabel style.mark) := by
  intro a b validA validB rest after starts startsAfter same
  have kinds := congrArg elementKind same
  rw [elementKind_tokens, elementKind_tokens] at kinds
  cases a with
  | column a => cases b with
      | column b =>
          have columns := (ColumnDefinition.tells style rule).map column
          exact columns validA validB starts startsAfter same
      | _ => simp [kind] at kinds
  | constraint a => cases b with
      | constraint b =>
          have constraints := (Constraint.tells style rule).map constraint
          exact constraints validA validB starts startsAfter same
      | _ => simp [kind] at kinds
  | index a => cases b with
      | index b =>
          have rulesA : a.WellFormed := (Node.valid_iff.mp validA).1
          have rulesB : b.WellFormed := (Node.valid_iff.mp validB).1
          exact (IndexConstraint.tells style).map index rulesA rulesB starts startsAfter same
      | _ => simp [kind] at kinds

/-- The word that a change to a table starts with, and whether it is a change to a column. -/
def actionHead : List Token → Option (Token × Bool)
  | t :: u :: _ => some (t, u = .word "COLUMN")
  | _ => none

def AlterAction.head : AlterAction → Token × Bool
  | .addConstraint _ => (.word "ADD", false)
  | .dropConstraint _ => (.word "DROP", false)
  | .addColumn _ => (.word "ADD", true)
  | .dropColumn .. => (.word "DROP", true)

private theorem actionHead_tokens {action : AlterAction} (rules : action.WellFormed)
    (rest : List Token) : actionHead (action.tokens style ++ rest) = some action.head := by
  cases action with
  | addConstraint constraint =>
      obtain ⟨t, u, more, isTokens, head, -⟩ := constraint.opens style
      have notColumn : ∀ t ∈ .word "DROP" :: definitionHeads, t ≠ .word "COLUMN" := by decide
      rw [AlterAction.tokens, isTokens]
      simp [actionHead, Token.words, AlterAction.head, notColumn t head]
  | dropConstraint constraint =>
      obtain ⟨t, u, more, isTokens, -, drop, second⟩ := constraint.opens style
      obtain rfl := drop.mpr rules
      have notColumn : u ≠ .word "COLUMN" := by
        rintro rfl
        exact second (by decide)
      rw [AlterAction.tokens, isTokens]
      simp [actionHead, AlterAction.head, notColumn]
  | addColumn | dropColumn => rfl

/-- A dropped column, and whether it may be missing. -/
private theorem dropColumn_tells (style : Style) :
    Tells (fun _ => True) (· ∈ closing)
      (fun dropped : Identifier × ExistenceCheck =>
        Token.words ["DROP", "COLUMN"] ++ Token.words dropped.2.words ++ [style.token dropped.1])
      (fun dropped => (style.mark dropped.1, dropped.2)) := by
  have existence := ExistenceCheck.tells (fun _ => True)
    fun dropped : Identifier × ExistenceCheck => dropped.2
  have name := (Identifier.tells style).of (Prod.fst : Identifier × ExistenceCheck → _)
    fun _ (_ : True) => trivial
  have whole := (existence.words_append ["DROP", "COLUMN"]).append name
    fun dropped _ => .cons (style.token_ne (by decide) dropped.1)
  refine (whole.mono (by decide)).imp fun a b _ _ same => ?_
  rw [Prod.mk.injEq] at same
  exact Prod.ext same.2 same.1

theorem AlterAction.tells (style : Style) (rule : DataType → Prop) :
    Tells (fun action => action.WellFormed ∧ ∀ node ∈ action.node?, node.Valid rule) (· ∈ closing)
      (AlterAction.tokens style) (AlterAction.relabel style.mark) := by
  rintro a b ⟨rulesA, validA⟩ ⟨rulesB, validB⟩ rest after starts startsAfter same
  have heads := congrArg actionHead same
  rw [actionHead_tokens rulesA, actionHead_tokens rulesB, Option.some.injEq] at heads
  cases a with
  | addConstraint a => cases b with
      | addConstraint b =>
          have added := ((Constraint.tells style rule).words_append ["ADD"]).map addConstraint
          exact added (validA _ rfl) (validB _ rfl) starts startsAfter same
      | _ => simp [head] at heads
  | dropConstraint a => cases b with
      | dropConstraint b =>
          have dropped := (Constraint.tells style rule).map dropConstraint
          exact dropped (validA _ rfl) (validB _ rfl) starts startsAfter same
      | _ => simp [head] at heads
  | addColumn a => cases b with
      | addColumn b =>
          have added := ((ColumnDefinition.tells style rule).words_append ["ADD", "COLUMN"]).map
            addColumn
          exact added (validA _ rfl) (validB _ rfl) starts startsAfter same
      | _ => simp [head] at heads
  | dropColumn a existence => cases b with
      | dropColumn b existence' =>
          have dropped := (dropColumn_tells style).map fun column => dropColumn column.1 column.2
          exact dropped (a := (a, existence)) (b := (b, existence')) trivial trivial starts
            startsAfter same
      | _ => simp [head] at heads

/-! ## Statements -/

private theorem createIndex_tells (style : Style) :
    Tells CreateIndex.WellFormed (· = .symbol ";") (CreateIndex.tokens style)
      (fun create => (Statement.createIndex create).relabel style.mark) := by
  have unique := Tells.wordsIf CreateIndex.WellFormed "UNIQUE" [] fun create => create.index.unique
  have existence := ExistenceCheck.tells CreateIndex.WellFormed CreateIndex.existence
  have name := (TableName.tells style).of CreateIndex.name
    fun create (_ : create.WellFormed) => trivial
  have table := (TableName.tells style).of CreateIndex.table
    fun create (_ : create.WellFormed) => trivial
  have body := (indexBody_tells style).of CreateIndex.index
    fun create (rules : create.WellFormed) => rules.index.nonempty
  have withOptions := Tells.wordsIf CreateIndex.WellFormed "WITH" []
    fun create => !create.options.isEmpty
  have options := Options.tells.of CreateIndex.options fun create (_ : create.WellFormed) => trivial
  have storage := (storage_tells style).of (fun create : CreateIndex => create.index.storageFormat)
    fun create (_ : create.WellFormed) => trivial
  have upToIndex := (unique.words_append ["CREATE"]).append_words "INDEX" [] (by decide)
  have upToName := (upToIndex.append existence fun _ _ _ _ => trivial).append name
    fun create _ => create.name.starts fun identifier =>
      ⟨trivial, style.token_ne (by decide) identifier⟩
  have upToTable := (upToName.append_words "ON" [] (by decide)).append table fun _ _ _ _ => trivial
  have upToBody := upToTable.append body fun _ _ => .cons (by decide)
  have upToWith := upToBody.append withOptions fun _ _ => .wordsIf _ _ (by decide)
  have upToOptions := upToWith.append options fun _ _ => .group (by decide)
  have whole := upToOptions.append storage fun _ _ => .optional (fun _ => .cons (by decide)) _
  refine (whole.mono (by rintro _ rfl; decide)).imp fun a b _ _ same => ?_
  simp only [Prod.mk.injEq, id] at same
  obtain ⟨⟨⟨⟨⟨⟨⟨unique, existence⟩, name⟩, table⟩, columns, join⟩, -⟩, options⟩, storage⟩ := same
  simp only [Statement.relabel, IndexDefinition.relabel, unique, existence, name, table, columns,
    join, options, storage]

private theorem dropIndex_tells (style : Style) :
    Tells (fun _ => True) (· = .symbol ";") (DropIndex.tokens style)
      (fun drop => (Statement.dropIndex drop).relabel style.mark) := by
  have existence := ExistenceCheck.tells (fun _ => True) DropIndex.existence
  have name := (TableName.tells style).of DropIndex.name fun _ (_ : True) => trivial
  have whole := (existence.words_append ["DROP", "INDEX"]).append name
    fun drop _ => drop.name.starts fun identifier => style.token_ne (by decide) identifier
  refine (whole.mono (by rintro _ rfl; decide)).imp fun a b _ _ same => ?_
  rw [Prod.mk.injEq] at same
  simp only [Statement.relabel, same.1, same.2]

private theorem dropTable_tells (style : Style) :
    Tells (fun _ => True) (· = .symbol ";") (DropTable.tokens style)
      (fun drop => (Statement.dropTable drop).relabel style.mark) := by
  have existence := ExistenceCheck.tells (fun _ => True) DropTable.existence
  have name := (TableName.tells style).of DropTable.name fun _ (_ : True) => trivial
  have behavior := behaviorTokens_tells (fun _ => True) DropTable.behavior
  have upToName := (existence.words_append ["DROP", "TABLE"]).append name
    fun drop _ => drop.name.starts fun identifier => style.token_ne (by decide) identifier
  have whole := upToName.append behavior fun _ _ => behaviorTokens_starts _ (by decide) (by decide)
  refine (whole.mono (by rintro _ rfl; decide)).imp fun a b _ _ same => ?_
  simp only [Prod.mk.injEq] at same
  obtain ⟨⟨existence, name⟩, behavior⟩ := same
  simp only [Statement.relabel, existence, name, behavior]

private theorem createTable_tells (style : Style) (rule : DataType → Prop) :
    Tells (fun create => (Node.statement (.createTable create)).Valid rule) (· = .symbol ";")
      (CreateTable.tokens style)
      (fun create => (Statement.createTable create).relabel style.mark) := by
  have valid_elements (create : CreateTable)
      (valid : (Node.statement (.createTable create)).Valid rule) :
      create.elements ≠ [] ∧ ∀ element ∈ create.elements, element.node.Valid rule := by
    obtain ⟨rules, below⟩ := Node.valid_iff.mp valid
    have columns : create.columns ≠ [] := rules.nonempty
    refine ⟨fun empty => columns ?_, fun element mem => below _ ?_⟩
    · rw [CreateTable.columns, empty]
      rfl
    · exact List.mem_cons_of_mem _ (List.mem_append_left _ (List.mem_map_of_mem mem))
  have existence := ExistenceCheck.tells
    (fun create => (Node.statement (.createTable create)).Valid rule) CreateTable.existence
  have name := (TableName.tells style).of CreateTable.name
    fun create (_ : (Node.statement (.createTable create)).Valid rule) => trivial
  have elements := (((TableElement.tells style rule).commas (by decide)).parens (by decide)).of
    CreateTable.elements valid_elements
  have storage := (storage_tells style).of CreateTable.storageFormat
    fun create (_ : (Node.statement (.createTable create)).Valid rule) => trivial
  have upToName := (existence.words_append ["CREATE", "TABLE"]).append name
    fun create _ => create.name.starts fun identifier => style.token_ne (by decide) identifier
  have whole := (upToName.append elements fun _ _ => .cons (by decide)).append storage
    fun _ _ => .optional (fun _ => .cons (by decide)) _
  refine (whole.mono (by rintro _ rfl; decide)).imp fun a b _ _ same => ?_
  simp only [Prod.mk.injEq] at same
  obtain ⟨⟨⟨existence, name⟩, elements⟩, storage⟩ := same
  simp only [Statement.relabel, existence, name, elements, storage]

private theorem AlterAction.starts (style : Style) (action : AlterAction) :
    Starts (· ∉ exprMarks) (action.tokens style) := by
  cases action with
  | dropConstraint constraint =>
      obtain ⟨t, u, rest, isTokens, head, -⟩ := constraint.opens style
      have apart : ∀ t ∈ .word "DROP" :: definitionHeads, t ∉ exprMarks := by decide
      rw [tokens, isTokens]
      exact .cons (apart t head)
  | _ => exact .cons (by decide)

private theorem alterTable_tells (style : Style) (rule : DataType → Prop) :
    Tells (fun alter => (Node.statement (.alterTable alter)).Valid rule) (· = .symbol ";")
      (AlterTable.tokens style) (fun alter => (Statement.alterTable alter).relabel style.mark) := by
  have valid_actions (alter : AlterTable)
      (valid : (Node.statement (.alterTable alter)).Valid rule) :
      alter.actions ≠ [] ∧ ∀ action ∈ alter.actions,
        action.WellFormed ∧ ∀ node ∈ action.node?, node.Valid rule := by
    obtain ⟨rules, below⟩ := Node.valid_iff.mp valid
    have rules : alter.WellFormed := rules
    refine ⟨rules.nonempty, fun action mem => ⟨rules.actions action mem, fun node isNode => ?_⟩⟩
    exact below _ (List.mem_cons_of_mem _ (List.mem_filterMap.mpr ⟨action, mem, isNode⟩))
  have name := (TableName.tells style).of AlterTable.name
    fun alter (_ : (Node.statement (.alterTable alter)).Valid rule) => trivial
  have actions := ((AlterAction.tells style rule).commas (by decide)).of AlterTable.actions
    valid_actions
  have whole := (name.words_append ["ALTER", "TABLE"]).append actions fun alter _ =>
    .commas (by decide) (List.forall_mem_map.mpr fun action _ => action.starts style)
  refine (whole.mono (by rintro _ rfl; decide)).imp fun a b _ _ same => ?_
  rw [Prod.mk.injEq] at same
  simp only [Statement.relabel, same.1, same.2]

/-- The kind of the statement that starts with the tokens. -/
def statementKind? : List Token → Option NodeKind
  | .word "CREATE" :: .word "TABLE" :: _ => some .createTable
  | .word "CREATE" :: _ => some .createIndex
  | .word "DROP" :: .word "TABLE" :: _ => some .dropTable
  | .word "DROP" :: _ => some .dropIndex
  | .word "ALTER" :: _ => some .alterTable
  | _ => none

private theorem statementKind?_tokens (statement : Statement) (rest : List Token) :
    statementKind? (statement.tokens style ++ rest) = some statement.kind := by
  cases statement with
  | createIndex create =>
      rw [Statement.tokens, CreateIndex.tokens]
      cases create.index.unique <;> rfl
  | _ => rfl

/-- The tokens of a statement tell the statement, also if a semicolon comes next. -/
theorem Statement.tells (style : Style) (rule : DataType → Prop) :
    Tells (fun statement => (Node.statement statement).Valid rule) (· = .symbol ";")
      (Statement.tokens style) (·.relabel style.mark) := by
  intro a b validA validB rest after starts startsAfter same
  have kinds := congrArg statementKind? same
  rw [statementKind?_tokens, statementKind?_tokens, Option.some.injEq] at kinds
  cases a with
  | createIndex a => cases b with
      | createIndex b =>
          exact createIndex_tells style (Node.valid_iff.mp validA).1 (Node.valid_iff.mp validB).1
            starts startsAfter same
      | _ => simp [kind] at kinds
  | dropIndex a => cases b with
      | dropIndex b => exact dropIndex_tells style trivial trivial starts startsAfter same
      | _ => simp [kind] at kinds
  | createTable a => cases b with
      | createTable b => exact createTable_tells style rule validA validB starts startsAfter same
      | _ => simp [kind] at kinds
  | dropTable a => cases b with
      | dropTable b => exact dropTable_tells style trivial trivial starts startsAfter same
      | _ => simp [kind] at kinds
  | alterTable a => cases b with
      | alterTable b => exact alterTable_tells style rule validA validB starts startsAfter same
      | _ => simp [kind] at kinds

theorem Statement.relabel_eq_of_tokens_eq {rule : DataType → Prop} {a b : Statement}
    (validA : (Node.statement a).Valid rule) (validB : (Node.statement b).Valid rule)
    (same : a.tokens style = b.tokens style) : a.relabel style.mark = b.relabel style.mark :=
  (Statement.tells style rule).image_eq validA validB same

/-- The text of a statement loses nothing: two reachable statements with the same text are equal up
    to positions and to marks that are written anyway. -/
theorem rendered_statement_injective {style : Style} (apart : StandsApart style.quote)
    {a b : Statement} (reachableA : Reachable (fun _ => True) (.statement a))
    (reachableB : Reachable (fun _ => True) (.statement b)) {text : String}
    (writtenA : style.render (.statement a) = .ok text)
    (writtenB : style.render (.statement b) = .ok text) :
    a.relabel style.mark = b.relabel style.mark := by
  have validA : (Node.statement a).Valid fun _ => True :=
    reachableA.valid (fun _ => id) fun _ _ => trivial
  have validB : (Node.statement b).Valid fun _ => True :=
    reachableB.valid (fun _ => id) fun _ _ => trivial
  have tokensA := (Style.scans_statement apart validA writtenA).scan_eq
  have tokensB := (Style.scans_statement apart validB writtenB).scan_eq
  exact Statement.relabel_eq_of_tokens_eq validA validB (tokensA.symm.trans tokensB)

/-- A reserved name is written delimited, whether it was read so or not. -/
theorem rendered_statement_injective_reserved :
    Style.render {}
        (.statement (.dropTable ⟨⟨none, .regular "order", {}⟩, .ifExists, none, {}⟩))
        = .ok "DROP TABLE IF EXISTS \"order\"" ∧
      Style.render {}
        (.statement (.dropTable ⟨⟨none, .delimited "order", {}⟩, .ifExists, none, {}⟩))
        = .ok "DROP TABLE IF EXISTS \"order\"" ∧
      (Statement.dropTable ⟨⟨none, .regular "order", {}⟩, .ifExists, none, {}⟩).relabel
          (Style.mark {})
        = (Statement.dropTable ⟨⟨none, .delimited "order", {}⟩, .ifExists, none, {}⟩).relabel
            (Style.mark {}) := by
  have construct {node : Node} (built : Constructed (fun _ => True) {} node)
      (parts : ∀ child ∈ node.children, Reachable (fun _ => True) child) :
      Reachable (fun _ => True) node := .construct built parts
  have reachable {name : Identifier} (named : name.isEmpty = false) :
      Reachable (fun _ => True)
        (.statement (.dropTable ⟨⟨none, name, {}⟩, .ifExists, none, {}⟩)) := by
    have build : TableName.build none name = .ok ⟨none, name, {}⟩ := by
      rw [TableName.build, named]
      rfl
    have table := construct (.tableName build) (by simp [Node.children])
    have drop : DropTable.build ⟨none, name, {}⟩ .ifExists none
        = .ok ⟨⟨none, name, {}⟩, .ifExists, none, {}⟩ := rfl
    exact construct (.dropTable drop) (List.forall_mem_singleton.mpr table)
  have apart : StandsApart (Style.quote {}) := ⟨by decide, by decide⟩
  have regular : Style.render {}
      (.statement (.dropTable ⟨⟨none, .regular "order", {}⟩, .ifExists, none, {}⟩))
      = .ok "DROP TABLE IF EXISTS \"order\"" := rfl
  have delimited : Style.render {}
      (.statement (.dropTable ⟨⟨none, .delimited "order", {}⟩, .ifExists, none, {}⟩))
      = .ok "DROP TABLE IF EXISTS \"order\"" := rfl
  exact ⟨regular, delimited, rendered_statement_injective apart (reachable (by decide))
    (reachable (by decide)) regular delimited⟩

end DdlTree
