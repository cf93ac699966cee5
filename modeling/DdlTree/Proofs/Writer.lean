import DdlTree.Proofs.Outcome
import DdlTree.Render.Writer

/-! # Writers render what the style says

What a writer does to its buffer and its count. A step appends the text of its part of the tree, or
fails with the error of that part; in both cases what was in the buffer stays there, and the count
of open expressions is what it was. So the result of a writer depends on its style alone, whatever
it has rendered or failed to render before.
-/

namespace DdlTree

/-- A step that writes the text of `result` behind what has been written, or fails with the error of
    `result` and leaves a part of it there. The style stays, and the depth is as before. -/
def Writes (style : Style) (depth : Nat) (step : WriteM Unit) :
    Except RenderError String → Prop
  | .ok text => ∀ output,
      step.run ⟨style, output, depth⟩ = .ok () ⟨style, output ++ text, depth⟩
  | .error error => ∀ output, ∃ part,
      step.run ⟨style, output, depth⟩ = .error error ⟨style, output ++ part, depth⟩

open WriteM

/-! ## Steps -/

section Steps

variable {style : Style} {depth : Nat} {step next : WriteM Unit}
  {result other : Except RenderError String} {α : Type}

theorem writes_text (text : String) : Writes style depth (write text) (pure text) :=
  fun _ => rfl

theorem writes_nothing : Writes style depth (pure ()) (pure "") := by
  have nothing : Writes style depth (pure ()) (.ok "") := by
    intro output
    rw [String.append_empty]
    rfl
  exact nothing

theorem writes_throw (error : RenderError) : Writes style depth (throw error) (.error error) := by
  intro output
  exact ⟨"", by rw [String.append_empty]; rfl⟩

/-- Two steps write two texts, one behind the other. -/
theorem Writes.andThen (first : Writes style depth step result)
    (second : Writes style depth next other) :
    Writes style depth (do step; next) (do return (← result) ++ (← other)) := by
  cases result with
  | error error =>
      intro output
      obtain ⟨part, failed⟩ := first output
      exact ⟨part, by rw [EStateM.run_bind, failed]⟩
  | ok text => cases other with
      | error error =>
          intro output
          obtain ⟨part, failed⟩ := second (output ++ text)
          refine ⟨text ++ part, ?_⟩
          rw [EStateM.run_bind, first output]
          simp only [failed, String.append_assoc]
      | ok more =>
          intro output
          rw [EStateM.run_bind, first output]
          simp only [second (output ++ text), String.append_assoc]

theorem writes_wordIf (wanted : Bool) (word : String) :
    Writes style depth (writeIf wanted word) (pure (wordIf wanted word)) := by
  cases wanted with
  | false => exact writes_nothing
  | true => exact writes_text word

/-- A word with a space behind it, if there is a word. -/
theorem writes_leading (word : Option String) :
    Writes style depth (word.forM fun word => write (word ++ " ")) (pure (leading word)) := by
  cases word with
  | none => exact writes_nothing
  | some word => exact writes_text _

/-- An optional part, with something around its text. -/
theorem writes_optional {item : α → WriteM Unit} {render : α → Except RenderError String}
    {around : Option String → String} (nothing : around none = "")
    (each : ∀ part, Writes style depth (item part) (do return around (some (← render part))))
    (part? : Option α) :
    Writes style depth (part?.forM item) (do return around (← Style.optional render part?)) := by
  cases part? with
  | none =>
      have same : (do return around (← Style.optional render none)) = pure (around none) := rfl
      rw [same, nothing]
      exact writes_nothing
  | some part =>
      have same : (do return around (← Style.optional render (some part)))
          = (do return around (some (← render part))) := by
        rw [Style.optional]
        cases render part <;> rfl
      rw [same]
      exact each part

/-- Items in a row, with a separator between each two. -/
theorem writes_separated {item : α → WriteM Unit} {render : α → Except RenderError String}
    (separator : String) (each : ∀ part, Writes style depth (item part) (render part))
    (items : List α) :
    Writes style depth (separated separator item items)
      (do return String.intercalate separator (← items.mapM render)) := by
  induction items with
  | nil => exact writes_nothing
  | cons first rest ih =>
      cases rest with
      | nil =>
          have alone : separated separator item [first] = (do item first; pure ()) := rfl
          rw [alone]
          have both := (each first).andThen writes_nothing
          simpa only [List.mapM_cons, List.mapM_nil, bind_assoc, pure_bind, String.append_empty,
            String.intercalate_singleton] using both
      | cons second others =>
          have ahead : separated separator item (first :: second :: others)
              = (do item first; write separator; separated separator item (second :: others)) := by
            simp only [separated, List.forM_eq_forM, List.forM_cons, bind_assoc]
          rw [ahead]
          have both := (each first).andThen ((writes_text separator).andThen ih)
          simpa only [List.mapM_cons, bind_assoc, pure_bind, String.append_assoc,
            String.intercalate_cons_cons] using both

end Steps

/-! ## Names and expressions -/

section Parts

variable {style : Style} {depth : Nat}

/-- A step that depends on the style is given the style of the writer. -/
theorem writes_styled {step : Style → WriteM Unit} {result : Except RenderError String}
    (writes : Writes style depth (step style) result) :
    Writes style depth (styled step) result := by
  cases result <;> exact writes

theorem writes_identifier (kind : NodeKind) (identifier : Identifier) :
    Writes style depth (WriteM.identifier kind identifier) (style.identifier kind identifier) := by
  rw [WriteM.identifier, Style.identifier]
  split
  · exact writes_throw _
  · refine writes_styled ?_
    split
    · exact writes_text _
    · exact writes_text _

theorem writes_tableName (table : TableName) :
    Writes style depth (WriteM.tableName table) (style.tableName table) := by
  rw [WriteM.tableName, Style.tableName]
  have name : Writes style depth (identifier _ table.name) _ := writes_identifier .tableName _
  cases table.schema with
  | none => exact name
  | some schema =>
      have dotted := ((writes_identifier .tableName schema).andThen (writes_text ".")).andThen name
      simpa only [Option.forM, bind_assoc, pure_bind] using dotted

theorem writes_column (kind : NodeKind) (table : Option TableName) (column : Identifier) :
    Writes style depth (WriteM.column kind table column) (style.column kind table column) := by
  have name : Writes style depth (identifier kind column) _ := writes_identifier kind column
  cases table with
  | none => exact name
  | some table =>
      have dotted := ((writes_tableName table).andThen (writes_text ".")).andThen name
      rw [WriteM.column]
      simpa only [Option.forM, Style.column, bind_assoc, pure_bind] using dotted

theorem writes_parenthesized {body : WriteM Unit} {result : Except RenderError String}
    (writes : Writes style depth body result) (wanted : Bool) :
    Writes style depth (parenthesized wanted body)
      (do return parenthesize wanted (← result)) := by
  cases wanted with
  | false => cases result <;> exact writes
  | true =>
      have enclosed := (writes_text "(").andThen (writes.andThen (writes_text ")"))
      simpa only [parenthesized, parenthesize, ↓reduceIte, bind_assoc, pure_bind,
        String.append_assoc] using enclosed

/-- An expression is written one level deeper, unless it is too deep, and the level comes back. -/
theorem writes_nested {body : WriteM Unit} {result : Except RenderError String} (kind : NodeKind)
    (writes : Writes style (depth + 1) body result) :
    Writes style depth (nested kind body) (do style.checkDepth depth kind; result) := by
  cases refused : style.maxDepth.filter (· ≤ depth) with
  | some limit =>
      obtain ⟨given, reached⟩ := Option.filter_eq_some_iff.mp refused
      have stops : (do style.checkDepth depth kind; result) = .error ⟨kind, .tooDeep limit⟩ := by
        rw [Style.checkDepth, given]
        simp only [if_pos (of_decide_eq_true reached)]
        rfl
      rw [stops]
      intro output
      exact ⟨"", by simp only [nested, EStateM.run, refused, String.append_empty]⟩
  | none =>
      have passes : (do style.checkDepth depth kind; result) = result := by
        have free : style.checkDepth depth kind = .ok () := by
          rw [Style.checkDepth]
          cases given : style.maxDepth with
          | none => rfl
          | some limit =>
              have notReached : ¬limit ≤ depth := by simpa [given] using refused
              simp only [if_neg notReached]
        rw [free]
        rfl
      rw [passes]
      cases result with
      | ok text =>
          intro output
          have written := writes output
          simp only [EStateM.run] at written
          simp only [nested, EStateM.run, refused, written, Nat.add_sub_cancel]
      | error error =>
          intro output
          obtain ⟨part, failed⟩ := writes output
          simp only [EStateM.run] at failed
          exact ⟨part, by simp only [nested, EStateM.run, refused, failed, Nat.add_sub_cancel]⟩

theorem writes_expr (e : Expr) :
    Writes style depth (WriteM.expr e) (style.exprAt depth e) := by
  induction e generalizing depth with
  | column table name span => exact writes_nested _ (writes_column _ table name)
  | number | string | boolean | null => exact writes_nested _ (writes_text _)
  | binary op left right span ihLeft ihRight =>
      have left := writes_parenthesized (@ihLeft (depth + 1)) (left.binding < op.precedence)
      have right := writes_parenthesized (@ihRight (depth + 1)) (right.binding ≤ op.precedence)
      have joined := left.andThen ((writes_text (" " ++ op.symbol ++ " ")).andThen right)
      rw [WriteM.expr, Style.exprAt]
      refine writes_nested _ ?_
      simpa only [bind_assoc, pure_bind, String.append_assoc] using joined
  | not operand span ih =>
      have operand := writes_parenthesized (@ih (depth + 1)) (operand.binding < notPrecedence)
      have negated := (writes_text "NOT ").andThen operand
      rw [WriteM.expr, Style.exprAt]
      refine writes_nested _ ?_
      simpa only [bind_assoc, pure_bind] using negated
  | isNull operand negated span ih =>
      have operand := writes_parenthesized (@ih (depth + 1)) (operand.binding ≤ isNullPrecedence)
      have tested := operand.andThen (writes_text (if negated then " IS NOT NULL" else " IS NULL"))
      rw [WriteM.expr, Style.exprAt]
      refine writes_nested _ ?_
      simpa only [bind_assoc, pure_bind] using tested

/-! ## Parts of statements -/

/-- An optional part behind a fixed opening. -/
theorem writes_clause {α : Type} {item : α → WriteM Unit} {render : α → Except RenderError String}
    {opening : String} {around : Option String → String} (nothing : around none = "")
    (opens : ∀ text, around (some text) = opening ++ text)
    (each : ∀ part, Writes style depth (item part) (render part)) (part? : Option α) :
    Writes style depth (part?.forM fun part => do write opening; item part)
      (do return around (← Style.optional render part?)) := by
  refine writes_optional nothing (fun part => ?_) part?
  simpa only [opens, pure_bind] using (writes_text opening).andThen (each part)

theorem writes_commaSeparated {α : Type} {item : α → WriteM Unit}
    {render : α → Except RenderError String}
    (each : ∀ part, Writes style depth (item part) (render part)) (items : List α) :
    Writes style depth (WriteM.commaSeparated item items)
      (do return commaSeparated (← items.mapM render)) :=
  writes_separated ", " each items

theorem writes_columnList (list : ColumnList) :
    Writes style depth (WriteM.columnList list) (style.columnList list) := by
  have columns := writes_commaSeparated (@writes_identifier style depth .columnList) list.columns
  rw [WriteM.columnList, Style.columnList]
  split
  · exact writes_throw _
  · exact columns

theorem writes_keyColumns (list : ColumnList) :
    Writes style depth (WriteM.keyColumns list) (style.keyColumns list) := by
  simpa only [WriteM.keyColumns, Style.keyColumns, bind_assoc, pure_bind, String.append_assoc]
    using (writes_text "(").andThen ((writes_columnList list).andThen (writes_text ")"))

theorem writes_indexColumn (column : IndexColumn) :
    Writes style depth (WriteM.indexColumn column) (style.indexColumn column) := by
  simpa only [WriteM.indexColumn, Style.indexColumn, bind_assoc, pure_bind] using
    (writes_column .indexColumn column.table column.column).andThen
      (writes_wordIf (!column.ascending) " DESC")

theorem writes_indexColumnList (list : IndexColumnList) :
    Writes style depth (WriteM.indexColumnList list) (style.indexColumnList list) := by
  have columns := writes_commaSeparated (@writes_indexColumn style depth) list.columns
  rw [WriteM.indexColumnList, Style.indexColumnList]
  split
  · exact writes_throw _
  · exact columns

theorem writes_options (kind : NodeKind) (bag : Options) :
    Writes style depth (WriteM.options kind bag) (Style.options kind bag) := by
  rw [WriteM.options, Style.options]
  cases bag.invalidKey? with
  | some key => exact writes_throw _
  | none =>
      have entries := writes_commaSeparated
        (fun entry => @writes_text style depth (optionEntry entry)) bag.entries
      rw [List.mapM_pure, pure_bind] at entries
      exact entries

theorem writes_optionClause (kind : NodeKind) (opening : String) (bag : Options) :
    Writes style depth (WriteM.optionClause kind opening bag)
      (Style.optionClause kind opening bag) := by
  rw [WriteM.optionClause, Style.optionClause]
  split
  · exact writes_nothing
  · simpa only [bind_assoc, pure_bind, String.append_assoc] using
      (writes_text (opening ++ "(")).andThen ((writes_options kind bag).andThen (writes_text ")"))

theorem writes_storageFormat (storage : StorageFormat) :
    Writes style depth (WriteM.storageFormat storage) (style.storageFormat storage) := by
  simpa only [WriteM.storageFormat, Style.storageFormat, bind_assoc, pure_bind,
    String.append_assoc] using
    (writes_text "STORAGE_FORMAT ").andThen
      ((writes_identifier .storageFormat storage.format).andThen
        (writes_optionClause .storageFormat "" storage.options))

theorem writes_storageClause (storage : Option StorageFormat) :
    Writes style depth (WriteM.storageClause storage) (style.storageClause storage) :=
  writes_clause rfl (fun _ => rfl) writes_storageFormat storage

/-- A word with a space before it, if there is a word. -/
theorem writes_trailing {α : Type} {word around : α → String}
    (spaced : ∀ part, trailing (some (around part)) = word part) (part? : Option α) :
    Writes style depth (part?.forM fun part => write (word part))
      (pure (trailing (part?.map around))) := by
  cases part? with
  | none => exact writes_nothing
  | some part =>
      rw [Option.map_some, spaced]
      exact writes_text (word part)

theorem writes_existence (check : ExistenceCheck) :
    Writes style depth (WriteM.existence check) (pure (leading check.keyword?)) :=
  writes_leading check.keyword?

theorem writes_behavior (behavior : Option DropBehavior) :
    Writes style depth (WriteM.behavior behavior)
      (pure (trailing (behavior.map (·.keyword)))) :=
  writes_trailing (fun _ => rfl) behavior

theorem writes_rootExpr (e : Expr) : Writes style 0 (WriteM.expr e) (style.expr e) :=
  writes_expr e

theorem writes_columnDefinition (column : ColumnDefinition) :
    Writes style 0 (WriteM.columnDefinition column) (style.columnDefinition column) := by
  have value := @writes_clause style 0 _ _ _ " DEFAULT "
    (fun value => trailing (value.map ("DEFAULT " ++ ·))) rfl
    (fun _ => (String.append_assoc ..).symm) writes_rootExpr column.defaultValue
  have defined := (writes_identifier .columnDefinition column.name).andThen
    ((writes_text (" " ++ column.dataType.text)).andThen
      (value.andThen (writes_wordIf column.notNull " NOT NULL")))
  simpa only [WriteM.columnDefinition, Style.columnDefinition, bind_assoc, pure_bind,
    String.append_assoc] using defined

/-- The end of a foreign key. -/
theorem writes_deferral (key : ForeignKey) :
    Writes style depth
      (if key.deferrable then do
        write " DEFERRABLE"
        writeIf key.initiallyDeferred " INITIALLY DEFERRED"
      else pure ())
      (pure (wordIf key.deferrable
        (" DEFERRABLE" ++ wordIf key.initiallyDeferred " INITIALLY DEFERRED"))) := by
  cases key.deferrable with
  | false => exact writes_nothing
  | true =>
      exact (writes_text " DEFERRABLE").andThen
        (writes_wordIf key.initiallyDeferred " INITIALLY DEFERRED")

theorem writes_foreignKey (key : ForeignKey) :
    Writes style depth (WriteM.foreignKey key) (style.foreignKey key) := by
  have refColumns := @writes_clause style depth _ _ _ " " trailing rfl (fun _ => rfl)
    writes_keyColumns key.refColumns
  have matchType := @writes_trailing style depth _ (" MATCH " ++ ·.keyword) ("MATCH " ++ ·.keyword)
    (fun _ => (String.append_assoc ..).symm) key.matchType
  have written := (writes_wordIf key.grouping "GROUPING ").andThen
    ((writes_text "FOREIGN KEY ").andThen ((writes_keyColumns key.columns).andThen
      ((writes_text " REFERENCES ").andThen ((writes_tableName key.refTable).andThen
        (refColumns.andThen (matchType.andThen
          ((writes_text (" ON DELETE " ++ key.deleteRule.keyword)).andThen
            ((writes_text (" ON UPDATE " ++ key.updateRule.keyword)).andThen
              (writes_deferral key)))))))))
  simpa only [WriteM.foreignKey, Style.foreignKey, bind_assoc, pure_bind, String.append_assoc]
    using written

theorem writes_constraintName (name : Option TableName) :
    Writes style depth (WriteM.constraintName name) (style.constraintName name) := by
  have each (name : TableName) :
      Writes style depth (do write "CONSTRAINT "; tableName name; write " ")
        (do return leading ((some (← style.tableName name)).map ("CONSTRAINT " ++ ·))) := by
    simpa only [leading, Option.map_some, bind_assoc, pure_bind, String.append_assoc] using
      (writes_text "CONSTRAINT ").andThen ((writes_tableName name).andThen (writes_text " "))
  exact writes_optional rfl each name

theorem writes_constraintDrop (name : Option TableName) (drop : ConstraintDrop) :
    Writes style depth (WriteM.constraintDrop name drop) (style.constraintDrop name drop) := by
  have existence := @writes_trailing style depth _ (" " ++ ·) id (fun _ => rfl)
    drop.existence.keyword?
  rw [Option.map_id_fun, id_eq] at existence
  have written {name : WriteM Unit} {result : Except RenderError String}
      (writes : Writes style depth name result) :=
    (writes_text "DROP ").andThen ((writes_wordIf drop.grouping "GROUPING ").andThen
      ((writes_text drop.constraintType.keyword).andThen (existence.andThen
        (writes.andThen (writes_behavior drop.behavior)))))
  simp only [WriteM.constraintDrop, Style.constraintDrop]
  cases name with
  | some name =>
      simpa only [Option.isNone_some, Bool.false_and, Bool.false_eq_true, ↓reduceIte,
        Style.optional, trailing, bind_map, bind_assoc, pure_bind, String.append_assoc] using
        written ((writes_text " ").andThen (writes_tableName name))
  | none =>
      by_cases named : drop.constraintType != .primaryKey
      · simpa only [named, Option.isNone_none, Bool.true_and, ↓reduceIte, bind_assoc, pure_bind,
          error_bind] using written (writes_throw _)
      · simpa only [named, Option.isNone_none, Bool.and_false, Bool.false_eq_true, ↓reduceIte,
          Style.optional, trailing, bind_assoc, pure_bind, ok_bind, String.append_assoc,
          String.empty_append] using written writes_nothing

theorem writes_constraint (constraint : Constraint) :
    Writes style 0 (WriteM.constraint constraint) (style.constraint constraint) := by
  have name := @writes_constraintName style 0 constraint.name
  rw [WriteM.constraint, Style.constraint]
  cases constraint.body with
  | primaryKey columns =>
      simpa only [bind_assoc, pure_bind, String.append_assoc] using
        name.andThen ((writes_text "PRIMARY KEY ").andThen (writes_keyColumns columns))
  | unique columns =>
      simpa only [bind_assoc, pure_bind, String.append_assoc] using
        name.andThen ((writes_text "UNIQUE ").andThen (writes_keyColumns columns))
  | check condition =>
      simpa only [bind_assoc, pure_bind, String.append_assoc] using
        name.andThen ((writes_text "CHECK (").andThen
          ((writes_rootExpr condition).andThen (writes_text ")")))
  | foreignKey key => exact name.andThen (writes_foreignKey key)
  | drop drop => exact writes_constraintDrop constraint.name drop

theorem writes_indexBody (index : IndexDefinition) :
    Writes style depth (WriteM.indexBody index) (style.indexBody index) := by
  simpa only [WriteM.indexBody, Style.indexBody, bind_assoc, pure_bind, String.append_assoc] using
    (writes_text "(").andThen ((writes_indexColumnList index.columns).andThen
      ((writes_text ")").andThen (writes_text (joinClause index.joinType))))

theorem writes_indexConstraint (constraint : IndexConstraint) :
    Writes style depth (WriteM.indexConstraint constraint) (style.indexConstraint constraint) := by
  simpa only [WriteM.indexConstraint, Style.indexConstraint, bind_assoc, pure_bind,
    String.append_assoc] using
    (writes_wordIf constraint.index.unique "UNIQUE ").andThen ((writes_text "INDEX ").andThen
      ((writes_identifier .indexConstraint constraint.name).andThen ((writes_text " ").andThen
        ((writes_indexBody constraint.index).andThen
          (writes_storageClause constraint.index.storageFormat)))))

/-! ## Statements -/

theorem writes_createIndex (create : CreateIndex) :
    Writes style depth (WriteM.createIndex create) (style.createIndex create) := by
  have ending := (@writes_indexBody style depth create.index).andThen
    ((writes_optionClause .createIndex " WITH " create.options).andThen
      (writes_storageClause create.index.storageFormat))
  simpa only [WriteM.createIndex, Style.createIndex, bind_assoc, pure_bind,
    String.append_assoc] using
    (writes_text "CREATE ").andThen ((writes_wordIf create.index.unique "UNIQUE ").andThen
      ((writes_text "INDEX ").andThen ((writes_existence create.existence).andThen
        ((writes_tableName create.name).andThen ((writes_text " ON ").andThen
          ((writes_tableName create.table).andThen ((writes_text " ").andThen ending)))))))

theorem writes_dropIndex (drop : DropIndex) :
    Writes style depth (WriteM.dropIndex drop) (style.dropIndex drop) := by
  simpa only [WriteM.dropIndex, Style.dropIndex, bind_assoc, pure_bind, String.append_assoc] using
    (writes_text "DROP INDEX ").andThen
      ((writes_existence drop.existence).andThen (writes_tableName drop.name))

theorem writes_tableElement (element : TableElement) :
    Writes style 0 (WriteM.tableElement element) (style.tableElement element) := by
  cases element with
  | column column => exact writes_columnDefinition column
  | constraint constraint => exact writes_constraint constraint
  | index index => exact writes_indexConstraint index

theorem writes_createTable (create : CreateTable) :
    Writes style 0 (WriteM.createTable create) (style.createTable create) := by
  have elements := writes_commaSeparated (@writes_tableElement style) create.elements
  have written := (writes_text "CREATE TABLE ").andThen
    ((writes_existence create.existence).andThen ((writes_tableName create.name).andThen
      ((writes_text " (").andThen (elements.andThen ((writes_text ")").andThen
        (writes_storageClause create.storageFormat))))))
  rw [WriteM.createTable, Style.createTable]
  split
  · exact writes_throw _
  · simpa only [bind_assoc, pure_bind, String.append_assoc] using written

theorem writes_dropTable (drop : DropTable) :
    Writes style depth (WriteM.dropTable drop) (style.dropTable drop) := by
  simpa only [WriteM.dropTable, Style.dropTable, bind_assoc, pure_bind, String.append_assoc] using
    (writes_text "DROP TABLE ").andThen ((writes_existence drop.existence).andThen
      ((writes_tableName drop.name).andThen (writes_behavior drop.behavior)))

theorem writes_alterAction (action : AlterAction) :
    Writes style 0 (WriteM.alterAction action) (style.alterAction action) := by
  cases action with
  | addConstraint constraint =>
      simpa only [WriteM.alterAction, Style.alterAction, pure_bind] using
        (writes_text "ADD ").andThen (writes_constraint constraint)
  | dropConstraint constraint => exact writes_constraint constraint
  | addColumn column =>
      simpa only [WriteM.alterAction, Style.alterAction, pure_bind] using
        (writes_text "ADD COLUMN ").andThen (writes_columnDefinition column)
  | dropColumn column existence =>
      simpa only [WriteM.alterAction, Style.alterAction, bind_assoc, pure_bind,
        String.append_assoc] using
        (writes_text "DROP COLUMN ").andThen
          ((writes_existence existence).andThen (writes_identifier .alterTable column))

theorem writes_alterTable (alter : AlterTable) :
    Writes style 0 (WriteM.alterTable alter) (style.alterTable alter) := by
  have actions := writes_commaSeparated (@writes_alterAction style) alter.actions
  have written := (writes_text "ALTER TABLE ").andThen
    ((writes_tableName alter.name).andThen ((writes_text " ").andThen actions))
  rw [WriteM.alterTable, Style.alterTable]
  split
  · exact writes_throw _
  · simpa only [bind_assoc, pure_bind, String.append_assoc] using written

theorem writes_statement (statement : Statement) :
    Writes style 0 (WriteM.statement statement) (style.statement statement) := by
  cases statement with
  | createIndex create => exact writes_createIndex create
  | dropIndex drop => exact writes_dropIndex drop
  | createTable create => exact writes_createTable create
  | dropTable drop => exact writes_dropTable drop
  | alterTable alter => exact writes_alterTable alter

theorem writes_node (node : Node) : Writes style 0 (WriteM.node node) (style.render node) := by
  cases node with
  | tableName name => exact writes_tableName name
  | expr e => exact writes_expr e
  | columnList columns => exact writes_columnList columns
  | indexColumn column => exact writes_indexColumn column
  | indexColumnList columns => exact writes_indexColumnList columns
  | storageFormat storage => exact writes_storageFormat storage
  | columnDefinition column => exact writes_columnDefinition column
  | constraint constraint => exact writes_constraint constraint
  | indexConstraint index => exact writes_indexConstraint index
  | statement statement => exact writes_statement statement

theorem writes_script (script : Script) :
    Writes style 0 (WriteM.script style.separator script) (style.script script) := by
  have ended (statement : Statement) :
      Writes style 0 (do WriteM.statement statement; write ";")
        ((style.statement statement).map (· ++ ";")) := by
    cases written : style.statement statement with
    | ok text => exact (written ▸ writes_statement statement).andThen (writes_text ";")
    | error error => exact (written ▸ writes_statement statement).andThen (writes_text ";")
  have statements := writes_separated style.separator ended script.statements
  rwa [mapM_map_result, bind_map] at statements

end Parts

/-! ## Whole results -/

/-- What a writer takes out is what the step writes, whatever was left in the buffer. -/
theorem Writer.take_eq {writer : Writer} {step : WriteM Unit} {result : Except RenderError String}
    (writes : Writes writer.style 0 step result) :
    (writer.take step).1 = result ∧ (writer.take step).2.style = writer.style := by
  cases result with
  | ok text =>
      have run := writes ""
      rw [String.empty_append] at run
      simp only [Writer.take, run, and_self]
  | error error =>
      obtain ⟨part, run⟩ := writes ""
      simp only [Writer.take, run, and_self]

theorem Writer.generate_eq (writer : Writer) (node : Node) :
    (writer.generate node).1 = writer.style.render node :=
  (Writer.take_eq (writes_node node)).1

theorem Writer.generateScript_eq (writer : Writer) (script : Script) :
    (writer.generateScript script).1 = writer.style.script script :=
  (Writer.take_eq (writes_script script)).1

end DdlTree
