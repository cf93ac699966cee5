import DdlTree.Proofs.StatementTokens

/-! # Rendered statements are read as their tokens

Pieces of text that are read on their own, put together in the order in which a statement is
written. A piece in front of something ends in a space or a parenthesis, and a piece behind
something is empty or starts with one, so no token runs into the next.
-/

namespace DdlTree

open Text

/-! ## Pieces of text -/

/-- A text that is read on its own after everything that a space can come after. -/
structure Trails (quote : Char) (text : String) (tokens : List Token) : Prop where
  scans : Scans quote Loose text tokens
  loose : ∀ rest, Loose rest → Loose (text.toList ++ rest)

section Sequences

variable {quote : Char} {follow : List Char → Prop} {text other : String}
  {tokens others : List Token}

theorem Scans.toLoose (scans : Scans quote (fun _ => True) text tokens) :
    Scans quote Loose text tokens :=
  scans.mono fun _ _ => trivial

theorem Scans.lead (first : Scans quote (fun _ => True) text tokens)
    (second : Scans quote follow other others) :
    Scans quote follow (text ++ other) (tokens ++ others) :=
  first.append second fun _ _ => trivial

theorem Scans.trail (first : Scans quote Loose text tokens) (second : Trails quote other others) :
    Scans quote Loose (text ++ other) (tokens ++ others) :=
  first.append second.scans second.loose

namespace Trails

theorem nil : Trails quote "" [] :=
  ⟨scans_nil quote _, fun _ => id⟩

theorem append (first : Trails quote text tokens) (second : Trails quote other others) :
    Trails quote (text ++ other) (tokens ++ others) := by
  refine ⟨first.scans.trail second, fun rest loose => ?_⟩
  rw [String.toList_append, List.append_assoc]
  exact first.loose _ (second.loose rest loose)

theorem spaced (scans : Scans quote Loose text tokens) : Trails quote (" " ++ text) tokens := by
  refine ⟨(scans_space quote).lead scans, fun rest _ => ?_⟩
  rw [String.toList_append]
  exact .cons (by decide)

theorem behind (apart : StandsApart quote) (words : List String)
    (bare : words.all isBareWord) (same : text = " " ++ " ".intercalate words) :
    Trails quote text (words.map .word) := by
  rw [same]
  exact spaced ((scans_words apart (List.all_eq_true.mp bare)).mono fun _ => Loose.orDot)

theorem behindIf (wanted : Bool) {words : List String}
    (trails : Trails quote text (Token.words words)) :
    Trails quote (wordIf wanted text) (Token.wordsIf wanted words) := by
  cases wanted with
  | false => exact nil
  | true => exact trails

/-- An optional part behind something. -/
theorem trailing {α : Type} {part? : Option α} {text? : Option String} {tokens : α → List Token}
    (written : Option.Rel (fun part text => Scans quote Loose text (tokens part)) part? text?) :
    Trails quote (trailing text?) (Token.optional tokens part?) := by
  cases written with
  | none => exact nil
  | some scans => exact spaced scans

/-- An optional part behind something, with keywords in front of it. -/
theorem keyed {α : Type} {part? : Option α} {text? : Option String} {tokens : α → List Token}
    {keywords : String} {words : List String}
    (before : Scans quote (fun _ => True) keywords (Token.words words))
    (written : Option.Rel (fun part text => Scans quote Loose text (tokens part)) part? text?) :
    Trails quote (DdlTree.trailing (text?.map (keywords ++ ·)))
      (Token.optional (fun part => Token.words words ++ tokens part) part?) := by
  cases written with
  | none => exact nil
  | some scans => exact spaced (before.lead scans)

end Trails

/-- An optional part in front of something, with keywords in front of it. -/
theorem scans_leading {α : Type} {part? : Option α} {text? : Option String}
    {tokens : α → List Token} {keywords : String} {words : List String}
    (before : Scans quote (fun _ => True) keywords (Token.words words))
    (written : Option.Rel (fun part text => Scans quote Loose text (tokens part)) part? text?) :
    Scans quote (fun _ => True) (leading (text?.map (keywords ++ ·)))
      (Token.optional (fun part => Token.words words ++ tokens part) part?) := by
  cases written with
  | none => exact scans_nil quote _
  | some scans =>
      have spaced := (before.lead scans).append (scans_space quote) fun _ _ => .cons (by decide)
      rwa [List.append_nil] at spaced

theorem scans_wordIf (wanted : Bool) {words : List String}
    (scans : Scans quote (fun _ => True) text (Token.words words)) :
    Scans quote (fun _ => True) (wordIf wanted text) (Token.wordsIf wanted words) := by
  cases wanted with
  | false => exact scans_nil quote _
  | true => exact scans

end Sequences

/-- An optional part is written exactly if the part is, when there is one. -/
theorem optional_eq_ok {α : Type} {write : α → Except RenderError String} {part? : Option α}
    {text? : Option String} :
    Style.optional write part? = .ok text? ↔
      Option.Rel (fun part text => write part = .ok text) part? text? := by
  cases part? with
  | none =>
      rw [Style.optional, Except.ok.injEq]
      constructor
      · rintro rfl
        exact .none
      · intro rel
        cases rel
        rfl
  | some part =>
      rw [Style.optional, map_eq_ok]
      constructor
      · rintro ⟨text, written, rfl⟩
        exact .some written
      · intro rel
        cases rel with
        | some written => exact ⟨_, written, rfl⟩

/-- What is written of an optional part is read if what is written of each part is. -/
theorem scans_optional {α : Type} {quote : Char} {write : α → Except RenderError String}
    {tokens : α → List Token} {part? : Option α} {text? : Option String}
    (written : Style.optional write part? = .ok text?)
    (each : ∀ part ∈ part?, ∀ text, write part = .ok text → Scans quote Loose text (tokens part)) :
    Option.Rel (fun part text => Scans quote Loose text (tokens part)) part? text? := by
  cases optional_eq_ok.mp written with
  | none => exact .none
  | some partWritten => exact .some (each _ rfl _ partWritten)

/-! ## Statements -/

namespace Style

variable {style : Style} (apart : StandsApart style.quote)

include apart

theorem scans_identifier_loose {kind : NodeKind} {identifier : Identifier} {text : String}
    (written : style.identifier kind identifier = .ok text) :
    Scans style.quote Loose text [style.token identifier] :=
  (scans_identifier apart written).mono fun _ => Loose.orDot

theorem scans_tableName_loose {table : TableName} {text : String}
    (written : style.tableName table = .ok text) :
    Scans style.quote Loose text (table.tokens style) :=
  (scans_tableName apart written).mono fun _ => Loose.orDot

/-- Every item of a list is read as its tokens, so the list is read as all of them. -/
private theorem scans_items {α : Type} {write : α → Except RenderError String}
    {tokens : α → List Token} {items : List α} {texts : List String}
    (written : items.mapM write = .ok texts)
    (each : ∀ item ∈ items, ∀ text, write item = .ok text →
      Scans style.quote Loose text (tokens item)) :
    Scans style.quote Loose (commaSeparated texts) (Token.commas (items.map tokens)) := by
  refine scans_commaSeparated apart ?_
  have written := mapM_eq_ok.mp written
  rw [List.forall₂_iff_get] at written ⊢
  refine ⟨written.1, fun i inItems inTexts => ?_⟩
  exact each _ (List.get_mem ..) _ (written.2 i inItems inTexts)

theorem scans_keyColumns {list : ColumnList} {text : String}
    (written : style.keyColumns list = .ok text) :
    Scans style.quote (fun _ => True) text (keyTokens style list) := by
  simp only [keyColumns, columnList, bind_eq_ok, pure_eq_ok] at written
  obtain ⟨inner, written, rfl⟩ := written
  replace written := (refuse_bind_eq_ok.mp written).2
  simp only [bind_eq_ok, pure_eq_ok] at written
  obtain ⟨texts, written, rfl⟩ := written
  exact scans_parens apart (scans_items apart written fun _ _ _ => scans_identifier_loose apart)

theorem scans_indexColumn {column : IndexColumn} {text : String}
    (written : style.indexColumn column = .ok text) :
    Scans style.quote Loose text (column.tokens style) := by
  simp only [indexColumn, bind_eq_ok, pure_eq_ok] at written
  obtain ⟨text, written, rfl⟩ := written
  have name := (scans_column apart written).mono fun _ => Loose.orDot
  have descending : Trails style.quote " DESC" _ := .behind apart ["DESC"] rfl rfl
  exact name.trail (descending.behindIf _)

theorem scans_indexColumnList {list : IndexColumnList} {text : String}
    (written : style.indexColumnList list = .ok text) :
    Scans style.quote Loose text (list.tokens style) := by
  rw [indexColumnList] at written
  replace written := (refuse_bind_eq_ok.mp written).2
  simp only [bind_eq_ok, pure_eq_ok] at written
  obtain ⟨texts, written, rfl⟩ := written
  exact scans_items apart written fun _ _ _ => scans_indexColumn apart

/-- Options with bare words for keys. -/
private theorem scans_options {kind : NodeKind} {bag : Options} {text : String}
    (written : options kind bag = .ok text) :
    Scans style.quote Loose text (Token.commas (bag.entries.map optionTokens)) := by
  rw [options] at written
  split at written
  · simp at written
  · rename_i noInvalid
    obtain rfl := Except.ok.inj written
    have plain := Options.invalidKey?_eq_none.mp noInvalid
    refine scans_commaSeparated apart ?_
    rw [List.forall₂_map_right_iff, List.forall₂_same]
    intro entry mem
    have key := (scans_word apart (plain _ (List.mem_map_of_mem mem))).mono fun _ => Loose.orDot
    have equals := ((scans_space style.quote).append (scans_op apart .eq) fun _ _ => trivial).append
      (scans_space style.quote) fun _ _ => .cons (by decide)
    have text : " " ++ BinaryOp.eq.symbol ++ " " = " = " := rfl
    rw [text] at equals
    have value := (scans_literal apart entry.2).mono fun _ => Loose.orDot
    exact (key.append equals fun _ _ => .cons (by decide)).lead value

/-- Options behind an opening that is written only if there are any. -/
private theorem trails_optionClause {kind : NodeKind} {bag : Options} {opening text : String}
    {words : List String} (opens : Scans style.quote (fun _ => True) opening (Token.words words))
    (loose : ∀ rest, Loose ((opening ++ "(").toList ++ rest))
    (written : optionClause kind opening bag = .ok text) :
    Trails style.quote text (Token.wordsIf (!bag.isEmpty) words ++ bag.tokens) := by
  rw [optionClause] at written
  rw [Options.tokens, Token.group, List.isEmpty_map, ← Options.isEmpty]
  cases empty : bag.isEmpty with
  | true =>
      obtain rfl : "" = text := by simpa [empty, pure_eq_ok] using written
      exact .nil
  | false =>
      simp only [empty, Bool.false_eq_true, ↓reduceIte, bind_eq_ok, pure_eq_ok] at written
      obtain ⟨inner, written, rfl⟩ := written
      have whole := opens.lead (scans_parens apart (scans_options apart written))
      rw [← String.append_assoc, ← String.append_assoc] at whole
      refine ⟨whole.toLoose, fun rest _ => ?_⟩
      rw [String.append_assoc, String.toList_append, List.append_assoc]
      exact loose _

theorem scans_storageFormat {storage : StorageFormat} {text : String}
    (written : style.storageFormat storage = .ok text) :
    Scans style.quote Loose text (storage.tokens style) := by
  simp only [storageFormat, bind_eq_ok, pure_eq_ok] at written
  obtain ⟨format, formatWritten, clause, clauseWritten, rfl⟩ := written
  have opening : Scans style.quote _ "STORAGE_FORMAT " _ :=
    scans_before apart ["STORAGE_FORMAT"] rfl rfl
  have format := scans_identifier_loose apart formatWritten
  have nothing : Scans style.quote (fun _ => True) "" (Token.words []) := scans_nil _ _
  have clause := trails_optionClause apart nothing (fun _ => .cons (by decide)) clauseWritten
  have noWords : Token.wordsIf (!storage.options.isEmpty) [] = [] := by
    cases storage.options.isEmpty <;> rfl
  rw [noWords] at clause
  exact (opening.lead format).trail clause

theorem trails_storageClause {storage : Option StorageFormat} {text : String}
    (written : style.storageClause storage = .ok text) :
    Trails style.quote text (Token.optional (StorageFormat.tokens style) storage) := by
  simp only [storageClause, bind_eq_ok, pure_eq_ok] at written
  obtain ⟨storageText, written, rfl⟩ := written
  exact .trailing (scans_optional written fun _ _ _ => scans_storageFormat apart)

private theorem scans_parameters {word : String} (bare : isBareWord word) (parameters : List Nat) :
    Scans style.quote Loose (word ++ ("(" ++ commaSeparated (parameters.map toString) ++ ")"))
      (Token.words [word]
        ++ Token.parens (Token.commas (parameters.map fun n => [.number (toString n)]))) := by
  have word := (scans_word apart bare).mono fun _ => Loose.orDot
  have each : Scans style.quote Loose (commaSeparated (parameters.map toString))
      (Token.commas (parameters.map fun n => [.number (toString n)])) := by
    refine scans_commaSeparated apart ?_
    rw [List.forall₂_map_right_iff, List.forall₂_same]
    exact fun n _ => scans_number apart (Numeral.isNumeral_toString n)
  refine word.append (scans_parens apart each).toLoose fun rest _ => ?_
  rw [String.append_assoc, String.toList_append, List.append_assoc]
  exact .cons (by decide)

theorem scans_dataType (type : DataType) : Scans style.quote Loose type.text type.tokens := by
  cases type with
  | decimal precision scale =>
      have text : (DataType.decimal precision scale).text
          = "DECIMAL" ++ ("(" ++ commaSeparated ([precision, scale].map toString) ++ ")") := by
        simp only [commaSeparated, List.map_cons, List.map_nil, String.intercalate_cons_cons,
          String.intercalate_singleton, ← String.append_assoc]
        rfl
      rw [text]
      exact scans_parameters apart (by decide) _
  | varchar length =>
      have text : (DataType.varchar length).text
          = "VARCHAR" ++ ("(" ++ commaSeparated ([length].map toString) ++ ")") := by
        simp only [commaSeparated, List.map_cons, List.map_nil, String.intercalate_singleton,
          ← String.append_assoc]
        rfl
      rw [text]
      exact scans_parameters apart (by decide) _
  | char length =>
      have text : (DataType.char length).text
          = "CHAR" ++ ("(" ++ commaSeparated ([length].map toString) ++ ")") := by
        simp only [commaSeparated, List.map_cons, List.map_nil, String.intercalate_singleton,
          ← String.append_assoc]
        rfl
      rw [text]
      exact scans_parameters apart (by decide) _
  | _ => exact (scans_word apart (by decide)).mono fun _ => Loose.orDot

theorem scans_expr {rule : DataType → Prop} {expr : Expr} {text : String}
    (valid : (Node.expr expr).Valid rule) (written : style.expr expr = .ok text) :
    Scans style.quote Loose text (expr.tokens style) :=
  scans_exprAt apart valid written

theorem scans_columnDefinition {rule : DataType → Prop} {column : ColumnDefinition} {text : String}
    (valid : (Node.columnDefinition column).Valid rule)
    (written : style.columnDefinition column = .ok text) :
    Scans style.quote Loose text (column.tokens style) := by
  obtain ⟨-, below⟩ := Node.valid_iff.mp valid
  simp only [columnDefinition, bind_eq_ok, pure_eq_ok] at written
  obtain ⟨name, nameWritten, value, valueWritten, rfl⟩ := written
  have name := scans_identifier_loose apart nameWritten
  have type := Trails.spaced (scans_dataType apart column.dataType)
  have keyword : Scans style.quote (fun _ => True) "DEFAULT " (Token.words ["DEFAULT"]) :=
    scans_before apart ["DEFAULT"] rfl rfl
  have value := Trails.keyed keyword (scans_optional valueWritten fun value isValue _ =>
    scans_expr apart (below _ (List.mem_map_of_mem (Option.mem_toList.mpr isValue))))
  have notNull : Trails style.quote " NOT NULL" _ := .behind apart ["NOT", "NULL"] rfl rfl
  have whole := ((name.trail type).trail value).trail (notNull.behindIf column.notNull)
  rwa [← String.append_assoc] at whole

theorem scans_existence (existence : ExistenceCheck) :
    Scans style.quote (fun _ => True) (leading existence.keyword?)
      (Token.words existence.words) := by
  cases existence with
  | noCondition => exact scans_nil _ _
  | ifExists => exact scans_before apart ["IF", "EXISTS"] rfl rfl
  | ifNotExists => exact scans_before apart ["IF", "NOT", "EXISTS"] rfl rfl

theorem trails_existence (existence : ExistenceCheck) :
    Trails style.quote (trailing existence.keyword?) (Token.words existence.words) := by
  cases existence with
  | noCondition => exact .nil
  | ifExists => exact .behind apart ["IF", "EXISTS"] rfl rfl
  | ifNotExists => exact .behind apart ["IF", "NOT", "EXISTS"] rfl rfl

theorem trails_behavior (behavior : Option DropBehavior) :
    Trails style.quote (trailing (behavior.map (·.keyword))) (behaviorTokens behavior) := by
  cases behavior with
  | none => exact .nil
  | some behavior => cases behavior with
      | cascade => exact .behind apart ["CASCADE"] rfl rfl
      | restrict => exact .behind apart ["RESTRICT"] rfl rfl

theorem scans_action (action : ReferentialAction) :
    Scans style.quote Loose action.keyword (Token.words action.words) := by
  have words : Scans style.quote LooseOrDot (" ".intercalate action.words) _ :=
    scans_words apart (by cases action <;> decide)
  have same : action.keyword = " ".intercalate action.words := by cases action <;> rfl
  exact same ▸ words.mono fun _ => Loose.orDot

theorem scans_constraintType (type : ConstraintType) :
    Scans style.quote Loose type.keyword (Token.words type.words) := by
  have words : Scans style.quote LooseOrDot (" ".intercalate type.words) _ :=
    scans_words apart (by cases type <;> decide)
  have same : type.keyword = " ".intercalate type.words := by cases type <;> rfl
  exact same ▸ words.mono fun _ => Loose.orDot

theorem scans_foreignKey {key : ForeignKey} {text : String}
    (written : style.foreignKey key = .ok text) :
    Scans style.quote Loose text (key.tokens style) := by
  simp only [foreignKey, bind_eq_ok, pure_eq_ok] at written
  obtain ⟨columns, columnsWritten, refTable, tableWritten, refColumns, refWritten, rfl⟩ := written
  have grouping : Scans style.quote _ "GROUPING " _ :=
    scans_before apart ["GROUPING"] rfl rfl
  have foreignKey : Scans style.quote _ "FOREIGN KEY " _ :=
    scans_before apart ["FOREIGN", "KEY"] rfl rfl
  have columns := scans_keyColumns apart columnsWritten
  have references : Scans style.quote _ " REFERENCES " _ :=
    scans_between apart ["REFERENCES"] rfl rfl
  have refTable := scans_tableName_loose apart tableWritten
  have refColumns := Trails.trailing (scans_optional refWritten fun _ _ _ written =>
    (scans_keyColumns apart written).toLoose)
  have matchType : Trails style.quote (trailing (key.matchType.map ("MATCH " ++ ·.keyword)))
      (Token.optional (fun type => Token.words ["MATCH", type.keyword]) key.matchType) := by
    cases key.matchType with
    | none => exact .nil
    | some type => cases type with
        | simple => exact .behind apart ["MATCH", "SIMPLE"] rfl rfl
        | full => exact .behind apart ["MATCH", "FULL"] rfl rfl
        | partly => exact .behind apart ["MATCH", "PARTIAL"] rfl rfl
  have onDelete : Scans style.quote _ " ON DELETE " _ :=
    scans_between apart ["ON", "DELETE"] rfl rfl
  have deleteRule := scans_action apart key.deleteRule
  have onUpdate : Scans style.quote _ " ON UPDATE " _ :=
    scans_between apart ["ON", "UPDATE"] rfl rfl
  have updateRule := scans_action apart key.updateRule
  have deferred : Trails style.quote (wordIf key.deferrable
      (" DEFERRABLE" ++ wordIf key.initiallyDeferred " INITIALLY DEFERRED"))
      (Token.wordsIf key.deferrable ["DEFERRABLE"]
        ++ Token.wordsIf (key.deferrable && key.initiallyDeferred) ["INITIALLY", "DEFERRED"]) := by
    cases key.deferrable with
    | false => exact .nil
    | true =>
        have deferrable : Trails style.quote " DEFERRABLE" _ :=
          .behind apart ["DEFERRABLE"] rfl rfl
        have deferred : Trails style.quote " INITIALLY DEFERRED" _ :=
          .behind apart ["INITIALLY", "DEFERRED"] rfl rfl
        exact deferrable.append (deferred.behindIf key.initiallyDeferred)
  have upToTable := ((((scans_wordIf key.grouping grouping).lead foreignKey).lead columns).lead
    references).lead refTable
  have upToRules := (upToTable.trail refColumns).trail matchType
  have upToUpdate := ((upToRules.append onDelete fun _ _ => .cons (by decide)).lead
    deleteRule).append onUpdate fun _ _ => .cons (by decide)
  have whole := (upToUpdate.lead updateRule).trail deferred
  rwa [← List.append_assoc] at whole

theorem scans_constraintDrop {name : Option TableName} {drop : ConstraintDrop} {text : String}
    (written : style.constraintDrop name drop = .ok text) :
    Scans style.quote Loose text (drop.tokens style name) := by
  rw [constraintDrop] at written
  replace written := (refuse_bind_eq_ok.mp written).2
  simp only [bind_eq_ok, pure_eq_ok] at written
  obtain ⟨nameText, nameWritten, rfl⟩ := written
  have opening : Scans style.quote _ "DROP " _ := scans_before apart ["DROP"] rfl rfl
  have grouping : Scans style.quote _ "GROUPING " _ :=
    scans_before apart ["GROUPING"] rfl rfl
  have type := scans_constraintType apart drop.constraintType
  have existence := trails_existence apart drop.existence
  have name := Trails.trailing (scans_optional nameWritten fun _ _ _ =>
    scans_tableName_loose apart)
  have behavior := trails_behavior apart drop.behavior
  have upToType := (opening.lead (scans_wordIf drop.grouping grouping)).lead type
  exact ((upToType.trail existence).trail name).trail behavior

theorem scans_constraintName {name : Option TableName} {text : String}
    (written : style.constraintName name = .ok text) :
    Scans style.quote (fun _ => True) text (constraintNameTokens style name) := by
  simp only [constraintName, bind_eq_ok, pure_eq_ok] at written
  obtain ⟨nameText, nameWritten, rfl⟩ := written
  have keyword : Scans style.quote _ "CONSTRAINT " (Token.words _) :=
    scans_before apart ["CONSTRAINT"] rfl rfl
  exact scans_leading keyword (scans_optional nameWritten fun _ _ _ =>
    scans_tableName_loose apart)

theorem scans_constraint {rule : DataType → Prop} {constraint : Constraint} {text : String}
    (valid : (Node.constraint constraint).Valid rule)
    (written : style.constraint constraint = .ok text) :
    Scans style.quote Loose text (constraint.tokens style) := by
  obtain ⟨name, body, span⟩ := constraint
  obtain ⟨-, below⟩ := Node.valid_iff.mp valid
  rw [Style.constraint] at written
  rw [Constraint.tokens]
  cases body with
  | primaryKey columns =>
      simp only [bind_eq_ok, pure_eq_ok] at written
      obtain ⟨nameText, nameWritten, columnsText, columnsWritten, rfl⟩ := written
      have keywords : Scans style.quote _ "PRIMARY KEY " _ :=
        scans_before apart ["PRIMARY", "KEY"] rfl rfl
      have body := keywords.lead (scans_keyColumns apart columnsWritten)
      have whole := (scans_constraintName apart nameWritten).lead body.toLoose
      rwa [← String.append_assoc] at whole
  | unique columns =>
      simp only [bind_eq_ok, pure_eq_ok] at written
      obtain ⟨nameText, nameWritten, columnsText, columnsWritten, rfl⟩ := written
      have keyword : Scans style.quote _ "UNIQUE " _ :=
        scans_before apart ["UNIQUE"] rfl rfl
      have body := keyword.lead (scans_keyColumns apart columnsWritten)
      have whole := (scans_constraintName apart nameWritten).lead body.toLoose
      rwa [← String.append_assoc] at whole
  | check condition =>
      simp only [bind_eq_ok, pure_eq_ok] at written
      obtain ⟨nameText, nameWritten, conditionText, conditionWritten, rfl⟩ := written
      have keyword : Scans style.quote _ "CHECK " _ := scans_before apart ["CHECK"] rfl rfl
      have body := keyword.lead (scans_parens apart (scans_expr apart
        (below _ (List.mem_append_right _ (List.mem_singleton_self _))) conditionWritten))
      have text : nameText ++ ("CHECK " ++ ("(" ++ conditionText ++ ")"))
          = nameText ++ "CHECK (" ++ conditionText ++ ")" := by
        simp [← String.toList_inj]
      have whole := (scans_constraintName apart nameWritten).lead body.toLoose
      rwa [text] at whole
  | foreignKey key =>
      simp only [bind_eq_ok, pure_eq_ok] at written
      obtain ⟨nameText, nameWritten, keyText, keyWritten, rfl⟩ := written
      exact (scans_constraintName apart nameWritten).lead (scans_foreignKey apart keyWritten)
  | drop d => exact scans_constraintDrop apart written

theorem scans_indexBody {index : IndexDefinition} {text : String}
    (written : style.indexBody index = .ok text) :
    Scans style.quote Loose text (index.bodyTokens style) := by
  simp only [indexBody, bind_eq_ok, pure_eq_ok] at written
  obtain ⟨columnsText, columnsWritten, rfl⟩ := written
  have columns := scans_parens apart (scans_indexColumnList apart columnsWritten)
  have join : Trails style.quote (joinClause index.joinType)
      (Token.optional (fun join => Token.words ["USING", join.keyword, "JOIN"])
        index.joinType) := by
    cases index.joinType with
    | none => exact .nil
    | some join => cases join with
        | inner => exact .behind apart ["USING", "INNER", "JOIN"] rfl rfl
        | leftOuter => exact .behind apart ["USING", "LEFT", "JOIN"] rfl rfl
        | rightOuter => exact .behind apart ["USING", "RIGHT", "JOIN"] rfl rfl
        | fullOuter => exact .behind apart ["USING", "FULL", "JOIN"] rfl rfl
  exact columns.toLoose.trail join

theorem scans_indexConstraint {constraint : IndexConstraint} {text : String}
    (written : style.indexConstraint constraint = .ok text) :
    Scans style.quote Loose text (constraint.tokens style) := by
  simp only [indexConstraint, bind_eq_ok, pure_eq_ok] at written
  obtain ⟨nameText, nameWritten, bodyText, bodyWritten, storageText, storageWritten, rfl⟩ := written
  have unique : Scans style.quote _ "UNIQUE " _ := scans_before apart ["UNIQUE"] rfl rfl
  have keyword : Scans style.quote _ "INDEX " _ := scans_before apart ["INDEX"] rfl rfl
  have name := scans_identifier_loose apart nameWritten
  have body := Trails.spaced (scans_indexBody apart bodyWritten)
  have storage := trails_storageClause apart storageWritten
  have opening := (scans_wordIf constraint.index.unique unique).lead keyword
  have whole := ((opening.lead name).trail body).trail storage
  rwa [← String.append_assoc] at whole

theorem scans_tableElement {rule : DataType → Prop} {element : TableElement} {text : String}
    (valid : element.node.Valid rule) (written : style.tableElement element = .ok text) :
    Scans style.quote Loose text (element.tokens style) := by
  cases element with
  | column c => exact scans_columnDefinition apart valid written
  | constraint c => exact scans_constraint apart valid written
  | index i => exact scans_indexConstraint apart written

theorem scans_createIndex {create : CreateIndex} {text : String}
    (written : style.createIndex create = .ok text) :
    Scans style.quote Loose text (create.tokens style) := by
  simp only [createIndex, bind_eq_ok, pure_eq_ok] at written
  obtain ⟨nameText, nameWritten, tableText, tableWritten, bodyText, bodyWritten, clauseText,
    clauseWritten, storageText, storageWritten, rfl⟩ := written
  have opening : Scans style.quote _ "CREATE " _ := scans_before apart ["CREATE"] rfl rfl
  have unique : Scans style.quote _ "UNIQUE " _ := scans_before apart ["UNIQUE"] rfl rfl
  have keyword : Scans style.quote _ "INDEX " _ := scans_before apart ["INDEX"] rfl rfl
  have existence := scans_existence apart create.existence
  have name := scans_tableName_loose apart nameWritten
  have on : Scans style.quote _ " ON " _ := scans_between apart ["ON"] rfl rfl
  have table := scans_tableName_loose apart tableWritten
  have body := Trails.spaced (scans_indexBody apart bodyWritten)
  have withOptions : Scans style.quote _ " WITH " (Token.words _) :=
    scans_between apart ["WITH"] rfl rfl
  have clause := trails_optionClause apart withOptions (fun _ => .cons (by decide)) clauseWritten
  have storage := trails_storageClause apart storageWritten
  have upToName := (((opening.lead (scans_wordIf create.index.unique unique)).lead keyword).lead
    existence).lead name
  have upToTable := (upToName.append on fun _ _ => .cons (by decide)).lead table
  have whole := ((upToTable.trail body).trail clause).trail storage
  rwa [← String.append_assoc, ← List.append_assoc] at whole

theorem scans_createTable {rule : DataType → Prop} {create : CreateTable} {text : String}
    (valid : (Node.statement (.createTable create)).Valid rule)
    (written : style.createTable create = .ok text) :
    Scans style.quote Loose text (create.tokens style) := by
  obtain ⟨-, below⟩ := Node.valid_iff.mp valid
  simp only [Node.children, Statement.children, List.forall_mem_cons] at below
  rw [createTable] at written
  replace written := (refuse_bind_eq_ok.mp written).2
  simp only [bind_eq_ok, pure_eq_ok] at written
  obtain ⟨nameText, nameWritten, texts, elementsWritten, storageText, storageWritten, rfl⟩ :=
    written
  have opening : Scans style.quote _ "CREATE TABLE " _ :=
    scans_before apart ["CREATE", "TABLE"] rfl rfl
  have existence := scans_existence apart create.existence
  have name := scans_tableName_loose apart nameWritten
  have elements := scans_parens apart (scans_items apart elementsWritten fun element mem _ =>
    scans_tableElement apart (below.2 _ (List.mem_append_left _ (List.mem_map_of_mem mem))))
  have spaced := Trails.spaced elements.toLoose
  have storage := trails_storageClause apart storageWritten
  have text (first second : String) :
      first ++ (" " ++ ("(" ++ second ++ ")")) = first ++ " (" ++ second ++ ")" := by
    simp [← String.toList_inj]
  have whole := (((opening.lead existence).lead name).trail spaced).trail storage
  rwa [text] at whole

theorem scans_alterAction {rule : DataType → Prop} {action : AlterAction} {text : String}
    (valid : ∀ node ∈ action.node?, node.Valid rule)
    (written : style.alterAction action = .ok text) :
    Scans style.quote Loose text (action.tokens style) := by
  cases action with
  | addConstraint constraint =>
      simp only [alterAction, bind_eq_ok, pure_eq_ok] at written
      obtain ⟨constraintText, constraintWritten, rfl⟩ := written
      have keyword : Scans style.quote _ "ADD " _ := scans_before apart ["ADD"] rfl rfl
      exact keyword.lead (scans_constraint apart (valid _ rfl) constraintWritten)
  | dropConstraint constraint => exact scans_constraint apart (valid _ rfl) written
  | addColumn column =>
      simp only [alterAction, bind_eq_ok, pure_eq_ok] at written
      obtain ⟨columnText, columnWritten, rfl⟩ := written
      have keyword : Scans style.quote _ "ADD COLUMN " _ :=
        scans_before apart ["ADD", "COLUMN"] rfl rfl
      exact keyword.lead (scans_columnDefinition apart (valid _ rfl) columnWritten)
  | dropColumn column existence =>
      simp only [alterAction, bind_eq_ok, pure_eq_ok] at written
      obtain ⟨columnText, columnWritten, rfl⟩ := written
      have keyword : Scans style.quote _ "DROP COLUMN " _ :=
        scans_before apart ["DROP", "COLUMN"] rfl rfl
      exact (keyword.lead (scans_existence apart existence)).lead
        (scans_identifier_loose apart columnWritten)

theorem scans_alterTable {rule : DataType → Prop} {alter : AlterTable} {text : String}
    (valid : (Node.statement (.alterTable alter)).Valid rule)
    (written : style.alterTable alter = .ok text) :
    Scans style.quote Loose text (alter.tokens style) := by
  obtain ⟨-, below⟩ := Node.valid_iff.mp valid
  simp only [Node.children, Statement.children, List.forall_mem_cons] at below
  rw [alterTable] at written
  replace written := (refuse_bind_eq_ok.mp written).2
  simp only [bind_eq_ok, pure_eq_ok] at written
  obtain ⟨nameText, nameWritten, texts, actionsWritten, rfl⟩ := written
  have opening : Scans style.quote _ "ALTER TABLE " _ :=
    scans_before apart ["ALTER", "TABLE"] rfl rfl
  have name := scans_tableName_loose apart nameWritten
  have actions := scans_items apart actionsWritten fun action mem _ =>
    scans_alterAction apart fun node isNode =>
      below.2 _ (List.mem_filterMap.mpr ⟨action, mem, isNode⟩)
  have whole := (opening.lead name).trail (.spaced actions)
  rwa [← String.append_assoc] at whole

/-- The text of a statement is read as its tokens. -/
theorem scans_statement {rule : DataType → Prop} {statement : Statement} {text : String}
    (valid : (Node.statement statement).Valid rule)
    (written : style.statement statement = .ok text) :
    Scans style.quote Loose text (statement.tokens style) := by
  cases statement with
  | createIndex create => exact scans_createIndex apart written
  | dropIndex drop =>
      simp only [statement, dropIndex, bind_eq_ok, pure_eq_ok] at written
      obtain ⟨nameText, nameWritten, rfl⟩ := written
      have opening : Scans style.quote _ "DROP INDEX " _ :=
        scans_before apart ["DROP", "INDEX"] rfl rfl
      exact (opening.lead (scans_existence apart drop.existence)).lead
        (scans_tableName_loose apart nameWritten)
  | createTable create => exact scans_createTable apart valid written
  | dropTable drop =>
      simp only [statement, dropTable, bind_eq_ok, pure_eq_ok] at written
      obtain ⟨nameText, nameWritten, rfl⟩ := written
      have opening : Scans style.quote _ "DROP TABLE " _ :=
        scans_before apart ["DROP", "TABLE"] rfl rfl
      exact ((opening.lead (scans_existence apart drop.existence)).lead
        (scans_tableName_loose apart nameWritten)).trail (trails_behavior apart drop.behavior)
  | alterTable alter => exact scans_alterTable apart valid written

end Style

end DdlTree
