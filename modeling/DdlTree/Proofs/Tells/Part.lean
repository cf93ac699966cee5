import DdlTree.Proofs.Tells

/-! # What the parts of a statement tell

Names, expressions, indexes, data types and columns, each told by its tokens up to positions and
marks. No keyword is an identifier, because identifiers that look like one are delimited.
-/

namespace DdlTree

variable {style : Style}

/-! ## Names and expressions -/

/-- Whether a token is kept for what is no identifier. -/
def Token.isKept : Token → Bool
  | .word text => isReserved text
  | .symbol _ => true
  | _ => false

theorem Style.isKept_token (style : Style) (identifier : Identifier) :
    (style.token identifier).isKept = false := by
  rw [token]
  split
  · rfl
  · rename_i bare
    exact (bare_of_needsQuotes (by simpa using bare)).2

theorem Style.token_ne {t : Token} (kept : t.isKept) (identifier : Identifier) :
    style.token identifier ≠ t := by
  rintro rfl
  simp [style.isKept_token] at kept

theorem Style.token_notMem {marks : List Token} (kept : ∀ t ∈ marks, t.isKept)
    (identifier : Identifier) : style.token identifier ∉ marks :=
  fun mem => style.token_ne (kept _ mem) identifier rfl

theorem Identifier.tells (style : Style) :
    Tells (fun _ => True) (fun _ => True) (fun identifier => [style.token identifier])
      style.mark := by
  intro a b _ _ rest after _ _ same
  obtain ⟨sameToken, same⟩ := List.cons.inj same
  have marked := style.identifier?_token a
  rw [sameToken, style.identifier?_token b] at marked
  exact ⟨(Option.some.inj marked).symm, same⟩

/-- The tokens that can go on an expression. -/
def exprMarks : List Token :=
  .symbol "." :: .word "IS" :: BinaryOp.all.map BinaryOp.token

theorem Starts.ends {rest : List Token} (starts : Starts (· ∉ exprMarks) rest) : Ends rest := by
  intro t isHead
  have free := starts t isHead
  simp only [exprMarks, List.mem_cons, List.mem_map, not_or, not_exists, not_and] at free
  exact ⟨free.1, fun op => free.2.2 op (by cases op <;> decide), free.2.1⟩

theorem Expr.tells (style : Style) (rule : DataType → Prop) :
    Tells (fun e => (Node.expr e).Valid rule) (· ∉ exprMarks) (Expr.tokens style)
      (Expr.relabel style.mark) := by
  intro a b validA validB rest after starts startsAfter same
  have derivesA := a.derives_or_tokens style validA
  have derivesB := b.derives_or_tokens style validB
  have cancelled := derivesA.cancel derivesB starts.ends startsAfter.ends same
  rwa [erase_relabel, erase_relabel] at cancelled

/-- A column under its table tells both. -/
private theorem column_tells {α : Type} (style : Style) (table : α → Option TableName)
    (column : α → Identifier) :
    Tells (fun _ => True) (· ∉ exprMarks) (fun a => columnTokens style (table a) (column a))
      (fun a => ((table a).map (TableName.relabel style.mark), style.mark (column a))) := by
  intro a b _ _ rest after starts startsAfter same
  have derives (a : α) : Derives .or (columnTokens style (table a) (column a))
      (Expr.relabel style.mark (.column (table a) (column a) {})) :=
    (Derives.column {} (derivesColumn_tokens style (table a) (column a))).weaken (by decide)
  obtain ⟨sameColumn, same⟩ := (derives a).cancel (derives b) starts.ends startsAfter.ends same
  rw [Expr.erase_relabel, Expr.erase_relabel] at sameColumn
  simp only [Expr.relabel, Expr.column.injEq] at sameColumn
  exact ⟨Prod.ext sameColumn.1 sameColumn.2.1, same⟩

/-- A name is a column under its schema. -/
private theorem TableName.tokens_eq (table : TableName) :
    table.tokens style = columnTokens style (table.schema.map (⟨none, ·, {}⟩)) table.name := by
  obtain ⟨schema, name, span⟩ := table
  cases schema <;> rfl

theorem TableName.tells (style : Style) :
    Tells (fun _ => True) (· ∉ exprMarks) (TableName.tokens style)
      (TableName.relabel style.mark) := by
  intro a b _ _ rest after starts startsAfter same
  rw [tokens_eq, tokens_eq] at same
  obtain ⟨sameName, sameRest⟩ := column_tells style (fun table => table.schema.map (⟨none, ·, {}⟩))
    TableName.name trivial trivial starts startsAfter same
  refine ⟨?_, sameRest⟩
  rw [Prod.mk.injEq] at sameName
  obtain ⟨sameSchema, sameName⟩ := sameName
  have schema : a.schema.map style.mark = b.schema.map style.mark := by
    cases isA : a.schema <;> cases isB : b.schema <;> simp_all [relabel]
  rw [relabel, relabel, schema, sameName]

theorem TableName.opens (style : Style) (table : TableName) :
    ∃ identifier rest, table.tokens style = style.token identifier :: rest := by
  rw [tokens]
  cases table.schema with
  | none => exact ⟨_, _, rfl⟩
  | some schema => exact ⟨_, _, rfl⟩

theorem TableName.starts {allowed : Token → Prop} (table : TableName)
    (head : ∀ identifier, allowed (style.token identifier)) :
    Starts allowed (table.tokens style) := by
  obtain ⟨identifier, rest, isTokens⟩ := table.opens style
  exact isTokens ▸ .cons (head identifier)

/-! ## Columns and indexes -/

/-- The columns of a key. -/
theorem keyTokens_tells (style : Style) :
    Tells (fun list => list.columns ≠ []) (fun _ => True) (keyTokens style)
      (ColumnList.relabel style.mark) := by
  have columns := ((Identifier.tells style).commas trivial).parens ⟨trivial, by decide⟩
  refine (columns.of ColumnList.columns fun _ nonempty => ⟨nonempty, fun _ _ => trivial⟩).imp ?_
  intro a b _ _ same
  rw [ColumnList.relabel, ColumnList.relabel, same]

theorem IndexColumn.tells (style : Style) :
    Tells (fun _ => True) (fun t => t ∉ exprMarks ∧ t ≠ .word "DESC") (IndexColumn.tokens style)
      (IndexColumn.relabel style.mark) := by
  have column := column_tells style IndexColumn.table IndexColumn.column
  have direction := Tells.wordsIf (fun _ => True) "DESC" [] fun c : IndexColumn => !c.ascending
  refine (column.append direction fun a _ => .wordsIf _ _ (by decide)).imp ?_
  intro a b _ _ same
  simp only [Prod.mk.injEq, Bool.not_inj_iff] at same
  obtain ⟨⟨table, name⟩, ascending⟩ := same
  rw [relabel, relabel, table, name, ascending]

theorem IndexColumnList.tells (style : Style) :
    Tells (fun list => list.columns ≠ []) (fun _ => True)
      (fun list => Token.parens (list.tokens style)) (IndexColumnList.relabel style.mark) := by
  have columns := ((IndexColumn.tells style).commas (by decide)).parens (by decide)
  refine (columns.of IndexColumnList.columns
    fun _ nonempty => ⟨nonempty, fun _ _ => trivial⟩).imp ?_
  intro a b _ _ same
  rw [relabel, relabel, same]

theorem Options.tells : Tells (fun _ => True) (· ≠ .symbol "(") Options.tokens id := by
  have entry : Tells (fun _ => True) (fun _ => True) optionTokens id := by
    intro a b _ _ rest after _ _ same
    simp only [optionTokens, List.cons_append, List.nil_append, List.cons.injEq, Token.word.injEq,
      Token.literal.injEq, true_and] at same
    exact ⟨Prod.ext same.1 same.2.1, same.2.2⟩
  refine ((entry.group trivial trivial).of Options.entries fun _ _ _ _ => trivial).imp ?_
  intro a b _ _ same
  obtain ⟨entries, sorted⟩ := a
  obtain ⟨entries', sorted'⟩ := b
  simpa using same

theorem StorageFormat.tells (style : Style) :
    Tells (fun _ => True) (· ≠ .symbol "(") (StorageFormat.tokens style)
      (StorageFormat.relabel style.mark) := by
  have format := (Identifier.tells style).of StorageFormat.format fun _ (_ : True) => trivial
  have options := Options.tells.of StorageFormat.options fun _ (_ : True) => trivial
  have whole := (format.words_append ["STORAGE_FORMAT"]).append options fun _ _ _ _ => trivial
  refine (whole.mono fun t other => ⟨trivial, other⟩).imp fun a b _ _ same => ?_
  rw [Prod.mk.injEq] at same
  obtain ⟨format, options⟩ := same
  rw [id, id] at options
  rw [relabel, relabel, format, options]

/-- A storage format at the end of a definition. -/
theorem storage_tells (style : Style) :
    Tells (fun _ => True) (fun t => t ≠ .symbol "(" ∧ t ≠ .word "STORAGE_FORMAT")
      (Token.optional (StorageFormat.tokens style))
      (Option.map (StorageFormat.relabel style.mark)) := by
  have storage := (StorageFormat.tells style).optional_of_head fun _ => rfl
  exact storage.of id fun _ _ _ _ => trivial

theorem JoinType.tells :
    Tells (fun _ => True) (fun _ => True)
      (fun join : JoinType => Token.words ["USING", join.keyword, "JOIN"]) id := by
  refine .words _ (fun join : JoinType => ["USING", join.keyword, "JOIN"]) (fun k l _ => ?_) id
  cases k <;> cases l <;> simp_all [Token.words, keyword]

/-- The columns and the join of an index. -/
theorem indexBody_tells (style : Style) :
    Tells (fun index => index.columns.columns ≠ []) (· ≠ .word "USING")
      (IndexDefinition.bodyTokens style)
      (fun index => (index.columns.relabel style.mark, index.joinType)) := by
  have columns := (IndexColumnList.tells style).of IndexDefinition.columns
    fun index (nonempty : index.columns.columns ≠ []) => nonempty
  have join := (JoinType.tells.optional_of_head fun _ => rfl).of IndexDefinition.joinType
    fun index (_ : index.columns.columns ≠ []) _ _ => trivial
  refine ((columns.append join fun _ _ _ _ => trivial).mono
    fun t other => ⟨trivial, trivial, other⟩).imp fun a b _ _ same => ?_
  simp only [Prod.mk.injEq, Option.map_id, id] at same
  exact Prod.ext same.1 same.2

/-! ## Tables -/

/-- The data type that a word and parameters stand for. -/
def DataType.ofWords? (keyword : String) : List Nat → Option DataType
  | [] => plain.lookup keyword
  | [length] => some (if keyword = "CHAR" then .char length else .varchar length)
  | [precision, scale] => some (.decimal precision scale)
  | _ => none

theorem DataType.ofWords?_eq (type : DataType) :
    ofWords? type.keyword type.parameters = some type := by
  cases type <;> rfl

theorem DataType.tells : Tells (fun _ => True) (· ≠ .symbol "(") DataType.tokens id := by
  have number : Tells (fun _ => True) (fun _ => True)
      (fun n : Nat => [.number (toString n)]) id := by
    intro a b _ _ rest after _ _ same
    obtain ⟨sameNumber, same⟩ := List.cons.inj same
    exact ⟨Numeral.toString_injective (Token.number.inj sameNumber), same⟩
  have parameters := (number.group trivial trivial).of DataType.parameters
    fun _ (_ : True) _ _ => trivial
  have whole := (Tells.word (fun _ => True) keyword).append parameters fun _ _ _ _ => trivial
  refine (whole.mono fun t other => ⟨trivial, other⟩).imp fun a b _ _ same => ?_
  rw [Prod.mk.injEq, List.map_id, List.map_id] at same
  obtain ⟨keyword, parameters⟩ := same
  have written := a.ofWords?_eq
  rw [keyword, parameters, b.ofWords?_eq] at written
  exact (Option.some.inj written).symm

/-- The tokens that can come after an element of a list in parentheses, or after a statement. -/
def closing : List Token :=
  [.symbol ",", .symbol ")", .symbol ";"]

theorem IndexConstraint.tells (style : Style) :
    Tells IndexConstraint.WellFormed (· ∈ closing) (IndexConstraint.tokens style)
      (IndexConstraint.relabel style.mark) := by
  have unique := Tells.wordsIf WellFormed "UNIQUE" [] fun c => c.index.unique
  have name := (Identifier.tells style).of name fun c (_ : c.WellFormed) => trivial
  have body := (indexBody_tells style).of index fun c (rules : c.WellFormed) => rules.index.nonempty
  have storage := (storage_tells style).of (fun c : IndexConstraint => c.index.storageFormat)
    fun c (_ : c.WellFormed) => trivial
  have opening := (unique.append_words "INDEX" [] (by decide)).append
    name fun _ _ _ _ => trivial
  have whole := (opening.append body fun _ _ _ _ => ⟨trivial, trivial⟩).append storage
    fun _ _ => .optional (fun _ => .cons (by decide)) _
  refine (whole.mono (by decide)).imp fun a b _ _ same => ?_
  simp only [Prod.mk.injEq] at same
  obtain ⟨⟨⟨unique, name⟩, columns, join⟩, storage⟩ := same
  rw [relabel, relabel, IndexDefinition.relabel, IndexDefinition.relabel, name, columns, storage,
    unique, join]

theorem ColumnDefinition.tells (style : Style) (rule : DataType → Prop) :
    Tells (fun column => (Node.columnDefinition column).Valid rule) (· ∈ closing)
      (ColumnDefinition.tokens style) (ColumnDefinition.relabel style.mark) := by
  have name := (Identifier.tells style).of name
    fun c (_ : (Node.columnDefinition c).Valid rule) => trivial
  have type := DataType.tells.of dataType
    fun c (_ : (Node.columnDefinition c).Valid rule) => trivial
  have value := (((Expr.tells style rule).words_append ["DEFAULT"]).optional_of_head
    fun _ => rfl).of defaultValue fun c (valid : (Node.columnDefinition c).Valid rule) _ given =>
      (Node.valid_iff.mp valid).2 _ (List.mem_map_of_mem (Option.mem_toList.mpr given))
  have notNull := Tells.wordsIf (fun c => (Node.columnDefinition c).Valid rule) "NOT" ["NULL"]
    notNull
  have typed := (name.append type fun _ _ _ _ => trivial).append value
    fun _ _ => .optional (fun _ => .cons (by decide)) _
  have whole := typed.append notNull fun _ _ => .wordsIf _ _ (by decide)
  refine (whole.mono (by decide)).imp fun a b _ _ same => ?_
  simp only [Prod.mk.injEq, id] at same
  obtain ⟨⟨⟨name, type⟩, value⟩, notNull⟩ := same
  rw [relabel, relabel, name, type, value, notNull]

end DdlTree
