import DdlTree.Proofs.Region
import DdlTree.Proofs.RenderStatement
import DdlTree.Proofs.UserText

/-! # Names and values stay between their marks

A scanner that knows of nothing but quotes finds the string constants and the option values of a
tree in its text as they are, and of its names exactly those that are delimited. The rest of the
text is the text of the tree with all its values empty, so values decide about nothing outside their
marks.
-/

namespace DdlTree

open Text

/-! ## Keywords -/

theorem plain_wordIf (wanted : Bool) (word : String) (plain : Plain word) :
    Plain (wordIf wanted word) := by
  cases wanted with
  | false => exact (by decide : Plain "")
  | true => exact plain

theorem plain_leading_existence (existence : ExistenceCheck) :
    Plain (leading existence.keyword?) := by
  cases existence <;> decide

theorem plain_trailing_behavior (behavior : Option DropBehavior) :
    Plain (trailing (behavior.map (·.keyword))) := by
  cases behavior with
  | none => decide
  | some behavior => cases behavior <;> decide

/-! ## Names -/

section Names

variable {style : Style} (apart : StandsApart style.quote)

/-- A text without literals that shows the delimited ones of some identifiers. -/
def Style.ShowsNames (style : Style) (text : String) (identifiers : List Identifier) : Prop :=
  Shows style.quote (Bare style.quote) text ⟨text, [], style.delimitedNames identifiers⟩

namespace Style

include apart

theorem showsNames_identifier {kind : NodeKind} {identifier : Identifier} {text : String}
    (written : style.identifier kind identifier = .ok text) :
    style.ShowsNames text [identifier] := by
  obtain ⟨-, written⟩ := refuse_eq_ok.mp written
  rw [ShowsNames, delimitedNames, List.filter_singleton]
  split at written
  · rename_i quoted
    rw [← Except.ok.inj written, quoted]
    exact shows_delimited apart identifier.name
  · rename_i bare
    rw [← Except.ok.inj written, Bool.eq_false_iff.mpr bare]
    have word := (bare_of_needsQuotes (by simpa using bare)).1
    exact (shows_plain apart (plain_of_isBareWord word)).mono fun _ _ => trivial

theorem ShowsNames.dotted {first second : String} {qualifiers identifiers : List Identifier}
    (qualifier : style.ShowsNames first qualifiers) (name : style.ShowsNames second identifiers) :
    style.ShowsNames (first ++ "." ++ second) (qualifiers ++ identifiers) := by
  rw [ShowsNames, delimitedNames_append]
  exact qualifier.joined apart "." (by decide) (by decide) name

theorem showsNames_tableName {table : TableName} {text : String}
    (written : style.tableName table = .ok text) : style.ShowsNames text table.identifiers := by
  rw [tableName] at written
  rw [TableName.identifiers]
  cases schema : table.schema with
  | none =>
      rw [schema] at written
      exact showsNames_identifier apart written
  | some schema =>
      simp only [schema, bind_eq_ok, pure_eq_ok] at written
      obtain ⟨schemaText, schemaWritten, nameText, nameWritten, rfl⟩ := written
      exact (showsNames_identifier apart schemaWritten).dotted apart
        (showsNames_identifier apart nameWritten)

theorem showsNames_column {kind : NodeKind} {table : Option TableName} {column : Identifier}
    {text : String} (written : style.column kind table column = .ok text) :
    style.ShowsNames text (columnIdentifiers table column) := by
  cases table with
  | none => exact showsNames_identifier apart written
  | some table =>
      simp only [Style.column, bind_eq_ok, pure_eq_ok] at written
      obtain ⟨tableText, tableWritten, nameText, nameWritten, rfl⟩ := written
      rw [columnIdentifiers, Option.toList_some, List.flatMap_singleton]
      exact (showsNames_tableName apart tableWritten).dotted apart
        (showsNames_identifier apart nameWritten)

/-- A row of items without literals. -/
theorem showsNames_items {α : Type} {write : α → Except RenderError String}
    {identifiers : α → List Identifier} {items : List α} {texts : List String}
    (written : items.mapM write = .ok texts)
    (each : ∀ item ∈ items, ∀ text, write item = .ok text →
      style.ShowsNames text (identifiers item)) :
    style.ShowsNames (commaSeparated texts) (items.flatMap identifiers) := by
  have shown : ∀ item ∈ items, ∀ text, write item = .ok text → ∃ outside,
      write (id item) = .ok outside ∧ Shows style.quote (Bare style.quote) text
        ⟨outside, [], style.delimitedNames (identifiers item)⟩ :=
    fun item mem text itemWritten => ⟨text, itemWritten, each item mem text itemWritten⟩
  obtain ⟨outsides, same, shows⟩ := shows_items apart written shown
  rw [List.map_id, written] at same
  obtain rfl := Except.ok.inj same
  rw [ShowsNames, delimitedNames_flatMap]
  rwa [List.flatMap_eq_nil_iff.mpr fun _ _ => rfl] at shows

theorem showsNames_columnList {list : ColumnList} {text : String}
    (written : style.columnList list = .ok text) : style.ShowsNames text list.columns := by
  replace written := (refuse_bind_eq_ok.mp written).2
  simp only [bind_eq_ok, pure_eq_ok] at written
  obtain ⟨texts, written, rfl⟩ := written
  have shows := showsNames_items apart written fun _ _ _ => showsNames_identifier apart
  rwa [List.flatMap_singleton'] at shows

theorem showsNames_keyColumns {list : ColumnList} {text : String}
    (written : style.keyColumns list = .ok text) : style.ShowsNames text list.columns := by
  simp only [keyColumns, bind_eq_ok, pure_eq_ok] at written
  obtain ⟨text, written, rfl⟩ := written
  exact ((showsNames_columnList apart written).before apart "(" (by decide)).behind apart ")"
    (by decide)

theorem showsNames_indexColumn {column : IndexColumn} {text : String}
    (written : style.indexColumn column = .ok text) :
    style.ShowsNames text column.identifiers := by
  simp only [indexColumn, bind_eq_ok, pure_eq_ok] at written
  obtain ⟨text, written, rfl⟩ := written
  exact (showsNames_column apart written).behind apart _ (plain_wordIf _ _ (by decide))

theorem showsNames_indexColumnList {list : IndexColumnList} {text : String}
    (written : style.indexColumnList list = .ok text) :
    style.ShowsNames text list.identifiers := by
  rw [indexColumnList] at written
  replace written := (refuse_bind_eq_ok.mp written).2
  simp only [bind_eq_ok, pure_eq_ok] at written
  obtain ⟨texts, written, rfl⟩ := written
  exact showsNames_items apart written fun _ _ _ => showsNames_indexColumn apart

theorem showsNames_indexBody {index : IndexDefinition} {text : String}
    (written : style.indexBody index = .ok text) :
    style.ShowsNames text index.columns.identifiers := by
  simp only [indexBody, bind_eq_ok, pure_eq_ok] at written
  obtain ⟨columnsText, columnsWritten, rfl⟩ := written
  have columns := (showsNames_indexColumnList apart columnsWritten).before apart "("
    (by decide)
  have join : Plain (joinClause index.joinType) := by
    cases index.joinType with
    | none => decide
    | some join => cases join <;> decide
  exact (columns.behind apart _ (by decide)).behind apart _ join

theorem showsNames_dropIndex {drop : DropIndex} {text : String}
    (written : style.dropIndex drop = .ok text) :
    style.ShowsNames text drop.name.identifiers := by
  simp only [dropIndex, bind_eq_ok, pure_eq_ok] at written
  obtain ⟨nameText, nameWritten, rfl⟩ := written
  have opening : Plain "DROP INDEX " := by decide
  exact (showsNames_tableName apart nameWritten).before apart _
    (opening.append (plain_leading_existence _))

theorem showsNames_dropTable {drop : DropTable} {text : String}
    (written : style.dropTable drop = .ok text) :
    style.ShowsNames text drop.name.identifiers := by
  simp only [dropTable, bind_eq_ok, pure_eq_ok] at written
  obtain ⟨nameText, nameWritten, rfl⟩ := written
  have opening : Plain "DROP TABLE " := by decide
  exact ((showsNames_tableName apart nameWritten).before apart _
    (opening.append (plain_leading_existence _))).behind apart _ (plain_trailing_behavior _)

/-- An optional name behind something. -/
theorem tail_names {α : Type} {write : α → Except RenderError String}
    {identifiers : α → List Identifier} {part? : Option α} {text? : Option String}
    (written : Style.optional write part? = .ok text?)
    (each : ∀ part text, write part = .ok text → style.ShowsNames text (identifiers part)) :
    Tail style.quote (trailing text?)
      ⟨trailing text?, [], style.delimitedNames (part?.toList.flatMap identifiers)⟩ := by
  cases optional_eq_ok.mp written with
  | none => exact .nil
  | some partWritten =>
      rw [Option.toList_some, List.flatMap_singleton]
      exact .spaced apart (each _ _ partWritten)

theorem showsNames_constraintDrop {name : Option TableName} {drop : ConstraintDrop} {text : String}
    (written : style.constraintDrop name drop = .ok text) :
    style.ShowsNames text (name.toList.flatMap TableName.identifiers) := by
  rw [constraintDrop] at written
  replace written := (refuse_bind_eq_ok.mp written).2
  simp only [bind_eq_ok, pure_eq_ok] at written
  obtain ⟨nameText, nameWritten, rfl⟩ := written
  have drops : Plain "DROP " := by decide
  have type : Plain drop.constraintType.keyword := by cases drop.constraintType <;> decide
  have existence : Plain (trailing drop.existence.keyword?) := by cases drop.existence <;> decide
  have opening := ((drops.append (plain_wordIf drop.grouping "GROUPING "
    (by decide))).append type).append existence
  have name := tail_names apart nameWritten fun _ _ => showsNames_tableName apart
  exact (name.shows.before apart _ opening).behind apart _ (plain_trailing_behavior _)

/-- The name in front of a definition is followed by anything. -/
theorem shows_constraintName {name : Option TableName} {text : String}
    (written : style.constraintName name = .ok text) :
    Shows style.quote (fun _ => True) text
      ⟨text, [], style.delimitedNames (name.toList.flatMap TableName.identifiers)⟩ := by
  simp only [constraintName, bind_eq_ok, pure_eq_ok] at written
  obtain ⟨nameText, nameWritten, rfl⟩ := written
  cases optional_eq_ok.mp nameWritten with
  | none => exact shows_plain apart (by decide)
  | some partWritten =>
      rw [Option.toList_some, List.flatMap_singleton]
      exact ((showsNames_tableName apart partWritten).before apart _ (by decide)).closed apart _
        (by decide) (by decide)

/-- The definition of a key: its name, its keywords and its columns. -/
theorem showsNames_key {name : Option TableName} {columns : ColumnList}
    {nameText keywords columnsText : String}
    (nameWritten : style.constraintName name = .ok nameText) (plain : Plain keywords)
    (columnsWritten : style.keyColumns columns = .ok columnsText) :
    style.ShowsNames (nameText ++ keywords ++ columnsText)
      (name.toList.flatMap TableName.identifiers ++ columns.columns) := by
  have whole := (shows_constraintName apart nameWritten).append
    ((showsNames_keyColumns apart columnsWritten).before apart _ plain) fun _ _ => trivial
  rwa [← String.append_assoc, ← delimitedNames_append] at whole

theorem showsNames_foreignKey {key : ForeignKey} {text : String}
    (written : style.foreignKey key = .ok text) : style.ShowsNames text key.identifiers := by
  simp only [foreignKey, bind_eq_ok, pure_eq_ok] at written
  obtain ⟨columnsText, columnsWritten, tableText, tableWritten, refText, refWritten, rfl⟩ := written
  have keyword : Plain "FOREIGN KEY " := by decide
  have opening := (plain_wordIf key.grouping "GROUPING " (by decide)).append keyword
  have columns := (showsNames_keyColumns apart columnsWritten).before apart _ opening
  have upToTable := columns.joined apart " REFERENCES " (by decide) (by decide)
    (showsNames_tableName apart tableWritten)
  have refColumns := tail_names apart refWritten fun _ _ => showsNames_keyColumns apart
  have matchType : Plain (trailing (key.matchType.map ("MATCH " ++ ·.keyword))) := by
    cases key.matchType with
    | none => decide
    | some type => cases type <;> decide
  have action (action : ReferentialAction) : Plain action.keyword := by cases action <;> decide
  have deferred : Plain (wordIf key.deferrable
      (" DEFERRABLE" ++ wordIf key.initiallyDeferred " INITIALLY DEFERRED")) := by
    cases key.deferrable <;> cases key.initiallyDeferred <;> decide
  rw [ShowsNames, ForeignKey.identifiers, delimitedNames_append, delimitedNames_append]
  exact ((((((upToTable.trail refColumns).behind apart _ matchType).behind apart _
    (by decide)).behind apart _ (action _)).behind apart _ (by decide)).behind apart _
      (action _)).behind apart _ deferred

end Style

end Names

/-! ## Values -/

namespace Node

/-- A node without children holds its own values and no others. -/
theorem literals_leaf {node : Node} (leaf : node.children = []) :
    node.literals = node.ownLiterals := by
  rw [literals_eq, leaf, List.flatMap_nil, List.append_nil]

/-- A node without values of its own holds those below it. -/
theorem literals_inner {node : Node} (bare : node.ownLiterals = []) :
    node.literals = node.children.flatMap literals := by
  rw [literals_eq, bare, List.nil_append]

theorem literals_tableName (table : TableName) : (tableName table).literals = [] :=
  literals_leaf rfl

theorem literals_columnList (columns : ColumnList) : (columnList columns).literals = [] :=
  literals_leaf rfl

theorem literals_optional {α : Type} {wrap : α → Node} (none : ∀ part, (wrap part).literals = [])
    (parts : List α) : (parts.map wrap).flatMap literals = [] := by
  simp [List.flatMap_map, none]

theorem literals_indexColumn (column : IndexColumn) : (indexColumn column).literals = [] := by
  rw [literals_inner rfl, children, literals_optional literals_tableName]

theorem literals_indexColumnList (columns : IndexColumnList) :
    (indexColumnList columns).literals = [] := by
  rw [literals_inner rfl, children, literals_optional literals_indexColumn]

theorem literals_storageFormat (storage : StorageFormat) :
    (storageFormat storage).literals = storage.options.values :=
  literals_leaf rfl

end Node

namespace Options

theorem isEmpty_blank (bag : Options) : bag.blank.isEmpty = bag.isEmpty := by
  rw [isEmpty, isEmpty, blank, List.isEmpty_map]

theorem invalidKey?_blank (bag : Options) : bag.blank.invalidKey? = bag.invalidKey? := by
  rw [invalidKey?, invalidKey?, keys, keys, blank, List.map_map]
  rfl

end Options

namespace Expr

theorem binding_blank (e : Expr) : e.blank.binding = e.binding := by
  cases e <;> rfl

end Expr

section Values

variable {rule : DataType → Prop} {style : Style} (apart : StandsApart style.quote)

/-- A text that shows the given values and the delimited ones of some identifiers, and is what
    `blank` writes outside of the values. -/
def Style.Confines (style : Style) (text : String) (blank : Except RenderError String)
    (literals : List String) (identifiers : List Identifier) : Prop :=
  ∃ outside, blank = .ok outside ∧ Shows style.quote (Bare style.quote) text
    ⟨outside, literals, style.delimitedNames identifiers⟩

namespace Style

/-- A text without values is what is written with its values empty. -/
theorem ShowsNames.confines {text : String} {identifiers : List Identifier}
    (shows : style.ShowsNames text identifiers) {written : Except RenderError String}
    (same : written = .ok text) : style.Confines text written [] identifiers :=
  ⟨text, same, shows⟩

include apart

private theorem shows_parenthesize (wanted : Bool) {text outside : String}
    {literals names : List String}
    (shows : Shows style.quote (Bare style.quote) text ⟨outside, literals, names⟩) :
    Shows style.quote (Bare style.quote) (parenthesize wanted text)
      ⟨parenthesize wanted outside, literals, names⟩ := by
  cases wanted with
  | false => exact shows
  | true => exact (shows.before apart _ (by decide)).behind apart _ (by decide)

theorem confines_exprAt {e : Expr} {depth : Nat} {text : String}
    (valid : (Node.expr e).Valid rule) (written : style.exprAt depth e = .ok text) :
    style.Confines text (style.exprAt depth e.blank) (Node.expr e).literals e.identifiers := by
  have fixed {word : String} (plain : Plain word) : style.ShowsNames word [] :=
    (shows_plain apart plain).mono fun _ _ => trivial
  induction e generalizing depth text with
  | column table name span =>
      rw [Node.literals_inner rfl, Node.children, Expr.children,
        Node.literals_optional Node.literals_tableName]
      have column := written
      simp only [exprAt, andThen_eq_ok] at column
      exact (showsNames_column apart column.2).confines written
  | number literal span =>
      rw [Node.literals_leaf rfl]
      have number := written
      simp only [exprAt, andThen_eq_ok, pure_eq_ok] at number
      obtain ⟨-, rfl⟩ := number
      -- a number is written as it was read, and a numeral holds no mark
      exact (fixed (plain_of_isNumeral (Node.valid_iff.mp valid).1)).confines written
  | string value span =>
      rw [Node.literals_leaf rfl]
      simp only [exprAt, andThen_eq_ok, pure_eq_ok] at written
      obtain ⟨checked, rfl⟩ := written
      refine ⟨stringLiteral "", ?_, shows_literal style.quote value⟩
      simp only [Expr.blank, exprAt, andThen_eq_ok, pure_eq_ok, and_true]
      exact checked
  | boolean value span =>
      rw [Node.literals_leaf rfl]
      have boolean := written
      simp only [exprAt, andThen_eq_ok, pure_eq_ok] at boolean
      obtain ⟨-, rfl⟩ := boolean
      exact (fixed (by cases value <;> decide)).confines written
  | null span =>
      rw [Node.literals_leaf rfl]
      have null := written
      simp only [exprAt, andThen_eq_ok, pure_eq_ok] at null
      obtain ⟨-, rfl⟩ := null
      exact (fixed (by decide)).confines written
  | binary op left right span ihLeft ihRight =>
      obtain ⟨-, below⟩ := Node.valid_iff.mp valid
      simp only [Node.children, Expr.children, List.forall_mem_cons] at below
      simp only [exprAt, bind_eq_ok, pure_eq_ok] at written
      obtain ⟨_, checked, leftText, leftWritten, rightText, rightWritten, rfl⟩ := written
      obtain ⟨leftOutside, leftBlank, leftShows⟩ := ihLeft below.1 leftWritten
      obtain ⟨rightOutside, rightBlank, rightShows⟩ := ihRight below.2.1 rightWritten
      have symbol : Plain op.symbol := by cases op <;> decide
      have left := shows_parenthesize apart (left.binding < op.precedence) leftShows
      have right := shows_parenthesize apart (right.binding ≤ op.precedence) rightShows
      rw [Node.literals_inner rfl, Node.children, Expr.children, List.flatMap_cons,
        List.flatMap_singleton]
      refine ⟨_, bind_ok checked (bind_ok leftBlank (bind_ok rightBlank rfl)), ?_⟩
      rw [Expr.identifiers, delimitedNames_append, Expr.binding_blank, Expr.binding_blank]
      exact ((left.behind apart _ (by decide)).behind apart _ symbol).joined apart " " (by decide)
        (by decide) right
  | not operand span ih =>
      obtain ⟨-, below⟩ := Node.valid_iff.mp valid
      simp only [exprAt, bind_eq_ok, pure_eq_ok] at written
      obtain ⟨_, checked, operandText, operandWritten, rfl⟩ := written
      obtain ⟨outside, operandBlank, shows⟩ :=
        ih (below _ (List.mem_singleton_self _)) operandWritten
      rw [Node.literals_inner rfl, Node.children, Expr.children, List.flatMap_singleton]
      refine ⟨_, bind_ok checked (bind_ok operandBlank rfl), ?_⟩
      rw [Expr.identifiers, Expr.binding_blank]
      exact (shows_parenthesize apart _ shows).before apart _ (by decide)
  | isNull operand negated span ih =>
      obtain ⟨-, below⟩ := Node.valid_iff.mp valid
      simp only [exprAt, bind_eq_ok, pure_eq_ok] at written
      obtain ⟨_, checked, operandText, operandWritten, rfl⟩ := written
      obtain ⟨outside, operandBlank, shows⟩ :=
        ih (below _ (List.mem_singleton_self _)) operandWritten
      rw [Node.literals_inner rfl, Node.children, Expr.children, List.flatMap_singleton]
      refine ⟨_, bind_ok checked (bind_ok operandBlank rfl), ?_⟩
      rw [Expr.identifiers, Expr.binding_blank]
      exact (shows_parenthesize apart _ shows).behind apart _ (by cases negated <;> decide)

/-- The keys of options are bare words once they are written, so that only their values can hold a
    mark. -/
theorem tail_optionClause {kind : NodeKind} {opening : String} {bag : Options} {text : String}
    (plain : Plain opening) (written : optionClause kind opening bag = .ok text) :
    ∃ outside, optionClause kind opening bag.blank = .ok outside ∧
      Tail style.quote text ⟨outside, bag.values, []⟩ := by
  rw [optionClause] at written ⊢
  rw [Options.isEmpty_blank]
  split at written
  · rename_i empty
    have none : bag.values = [] := by
      rw [Options.values, List.isEmpty_iff.mp empty, List.map_nil]
    obtain rfl := pure_eq_ok.mp written
    rw [if_pos empty, none]
    exact ⟨"", rfl, .nil⟩
  · rename_i nonempty
    simp only [bind_eq_ok, pure_eq_ok] at written
    obtain ⟨entries, entriesWritten, rfl⟩ := written
    rw [options] at entriesWritten
    cases isInvalid : bag.invalidKey? with
    | some key => simp [isInvalid] at entriesWritten
    | none =>
        rw [isInvalid] at entriesWritten
        obtain rfl := Except.ok.inj entriesWritten
        have keys := Options.invalidKey?_eq_none.mp isInvalid
        have row (entries : List (String × String)) :
            entries.mapM (fun entry => (.ok (optionEntry entry) : Except RenderError String))
              = .ok (entries.map optionEntry) := List.mapM_pure
        have shown : ∀ entry ∈ bag.entries, ∀ text,
            (.ok (optionEntry entry) : Except RenderError String) = .ok text → ∃ outside,
              (.ok (optionEntry (entry.1, "")) : Except RenderError String) = .ok outside ∧
                Shows style.quote (Bare style.quote) text ⟨outside, [entry.2], []⟩ := by
          rintro entry mem _ ⟨⟩
          have key : Plain entry.1 := plain_of_isBareWord (keys _ (List.mem_map_of_mem mem))
          have between : Plain " = " := by decide
          exact ⟨_, rfl, (shows_literal style.quote entry.2).before apart _ (key.append between)⟩
        obtain ⟨outsides, same, shows⟩ := shows_items apart (row bag.entries) shown
        rw [row] at same
        obtain rfl := Except.ok.inj same
        rw [← List.map_eq_flatMap, List.flatMap_eq_nil_iff.mpr fun _ _ => rfl] at shows
        have blankWritten : options kind bag.blank
            = .ok (commaSeparated (bag.blank.entries.map optionEntry)) := by
          rw [options, Options.invalidKey?_blank, isInvalid]
        have parens : Plain (opening ++ "(") := plain.append (by decide)
        have whole := Tail.after apart (shows.behind apart ")" (by decide)) _ parens (by simp)
        rw [← String.append_assoc, ← String.append_assoc] at whole
        rw [if_neg nonempty, blankWritten]
        exact ⟨_, rfl, whole⟩

/-- An optional part behind something, with a word before it. -/
theorem tail_optional {α : Type} {write : α → Except RenderError String} {blank : α → α}
    {literalsOf : α → List String} {identifiers : α → List Identifier} {part? : Option α}
    {text? : Option String} (opening : String) (plain : Plain opening)
    (written : Style.optional write part? = .ok text?)
    (each : ∀ part ∈ part?, ∀ text, write part = .ok text →
      style.Confines text (write (blank part)) (literalsOf part) (identifiers part)) :
    ∃ outside?, Style.optional write (part?.map blank) = .ok outside? ∧
      Tail style.quote (trailing (text?.map (opening ++ ·)))
        ⟨trailing (outside?.map (opening ++ ·)), part?.toList.flatMap literalsOf,
          style.delimitedNames (part?.toList.flatMap identifiers)⟩ := by
  cases optional_eq_ok.mp written with
  | none => exact ⟨none, rfl, .nil⟩
  | some partWritten =>
      obtain ⟨outside, blankWritten, shows⟩ := each _ rfl _ partWritten
      refine ⟨some outside, map_eq_ok.mpr ⟨outside, blankWritten, rfl⟩, ?_⟩
      rw [Option.toList_some, List.flatMap_singleton, List.flatMap_singleton]
      exact .spaced apart (shows.before apart _ plain)

theorem confines_storageFormat {storage : StorageFormat} {text : String}
    (written : style.storageFormat storage = .ok text) :
    style.Confines text (style.storageFormat storage.blank) (Node.storageFormat storage).literals
      storage.identifiers := by
  simp only [storageFormat, bind_eq_ok, pure_eq_ok] at written
  obtain ⟨formatText, formatWritten, clauseText, clauseWritten, rfl⟩ := written
  obtain ⟨outside, clauseBlank, clause⟩ := tail_optionClause apart (by decide) clauseWritten
  rw [Node.literals_storageFormat]
  refine ⟨_, bind_ok formatWritten (bind_ok clauseBlank rfl), ?_⟩
  have format := (showsNames_identifier apart formatWritten).before apart
    "STORAGE_FORMAT " (by decide)
  have whole := format.trail clause
  rwa [List.append_nil] at whole

theorem tail_storageClause {storage : Option StorageFormat} {text : String}
    (written : style.storageClause storage = .ok text) :
    ∃ outside, style.storageClause (storage.map StorageFormat.blank) = .ok outside ∧
      Tail style.quote text ⟨outside, (storage.toList.map Node.storageFormat).flatMap Node.literals,
        style.delimitedNames (storage.toList.flatMap StorageFormat.identifiers)⟩ := by
  simp only [storageClause, bind_eq_ok, pure_eq_ok] at written
  obtain ⟨text?, written, rfl⟩ := written
  obtain ⟨outside?, blankWritten, tail⟩ := tail_optional apart "" (by decide) written
    fun _ _ _ => confines_storageFormat apart
  simp only [String.empty_append, Option.map_id'] at tail
  rw [List.flatMap_map]
  exact ⟨_, bind_ok blankWritten rfl, tail⟩

theorem confines_columnDefinition {column : ColumnDefinition} {text : String}
    (valid : (Node.columnDefinition column).Valid rule)
    (written : style.columnDefinition column = .ok text) :
    style.Confines text (style.columnDefinition column.blank)
      (Node.columnDefinition column).literals column.identifiers := by
  obtain ⟨-, below⟩ := Node.valid_iff.mp valid
  simp only [columnDefinition, bind_eq_ok, pure_eq_ok] at written
  obtain ⟨nameText, nameWritten, valueText, valueWritten, rfl⟩ := written
  obtain ⟨outside?, valueBlank, value⟩ := tail_optional apart "DEFAULT " (by decide)
    valueWritten fun part isPart _ => confines_exprAt apart
      (below _ (List.mem_map_of_mem (Option.mem_toList.mpr isPart)))
  rw [Node.literals_inner rfl, Node.children, List.flatMap_map]
  refine ⟨_, bind_ok nameWritten (bind_ok valueBlank rfl), ?_⟩
  have typed := ((showsNames_identifier apart nameWritten).behind apart " "
    (by decide)).behind apart _ (plain_dataType column.dataType)
  have whole := (typed.trail value).behind apart _ (plain_wordIf column.notNull " NOT NULL"
    (by decide))
  rwa [← delimitedNames_append] at whole

theorem confines_constraint {c : Constraint} {text : String}
    (valid : (Node.constraint c).Valid rule) (written : style.constraint c = .ok text) :
    style.Confines text (style.constraint c.blank) (Node.constraint c).literals c.identifiers := by
  obtain ⟨name, body, span⟩ := c
  obtain ⟨-, below⟩ := Node.valid_iff.mp valid
  rw [Node.literals_inner rfl, Node.children, List.flatMap_append,
    Node.literals_optional Node.literals_tableName, List.nil_append]
  cases body with
  | primaryKey columns | unique columns =>
      rw [ConstraintBody.children, List.flatMap_singleton, Node.literals_columnList]
      have key := written
      simp only [Style.constraint, bind_eq_ok, pure_eq_ok] at key
      obtain ⟨nameText, nameWritten, columnsText, columnsWritten, rfl⟩ := key
      exact (showsNames_key apart nameWritten (by decide) columnsWritten).confines written
  | check condition =>
      simp only [Style.constraint, bind_eq_ok, pure_eq_ok] at written
      obtain ⟨nameText, nameWritten, conditionText, conditionWritten, rfl⟩ := written
      obtain ⟨outside, blank, shows⟩ := confines_exprAt apart
        (below _ (List.mem_append_right _ (List.mem_singleton_self _))) conditionWritten
      rw [ConstraintBody.children, List.flatMap_singleton]
      refine ⟨_, bind_ok nameWritten (bind_ok blank rfl), ?_⟩
      have whole := ((shows_constraintName apart nameWritten).append (shows.before apart
        "CHECK (" (by decide)) fun _ _ => trivial).behind apart ")" (by decide)
      rwa [← String.append_assoc, ← String.append_assoc, ← delimitedNames_append] at whole
  | foreignKey key =>
      have none : (ConstraintBody.foreignKey key).children.flatMap Node.literals = [] := by
        rw [ConstraintBody.children, List.flatMap_cons, List.flatMap_cons, Node.literals_columnList,
          Node.literals_tableName, Node.literals_optional Node.literals_columnList]
        rfl
      have definition := written
      simp only [Style.constraint, bind_eq_ok, pure_eq_ok] at definition
      obtain ⟨nameText, nameWritten, keyText, keyWritten, rfl⟩ := definition
      have whole := (shows_constraintName apart nameWritten).append
        (showsNames_foreignKey apart keyWritten) fun _ _ => trivial
      rw [← delimitedNames_append] at whole
      rw [none]
      exact ShowsNames.confines whole written
  | drop d =>
      rw [Constraint.identifiers, ConstraintBody.identifiers, List.append_nil]
      exact (showsNames_constraintDrop apart written).confines written

theorem confines_indexConstraint {constraint : IndexConstraint} {text : String}
    (written : style.indexConstraint constraint = .ok text) :
    style.Confines text (style.indexConstraint constraint.blank)
      (Node.indexConstraint constraint).literals constraint.identifiers := by
  simp only [indexConstraint, bind_eq_ok, pure_eq_ok] at written
  obtain ⟨nameText, nameWritten, bodyText, bodyWritten, storageText, storageWritten, rfl⟩ := written
  obtain ⟨outside, storageBlank, storage⟩ := tail_storageClause apart storageWritten
  rw [Node.literals_inner rfl, Node.children, IndexDefinition.children, List.flatMap_cons,
    Node.literals_indexColumnList]
  refine ⟨_, bind_ok nameWritten (bind_ok bodyWritten (bind_ok storageBlank rfl)), ?_⟩
  have keyword : Plain "INDEX " := by decide
  have opening := (plain_wordIf constraint.index.unique "UNIQUE " (by decide)).append
    keyword
  have name := (showsNames_identifier apart nameWritten).before apart _ opening
  have body := name.joined apart " " (by decide) (by decide)
    (showsNames_indexBody apart bodyWritten)
  have whole := body.trail storage
  rwa [List.append_assoc, ← delimitedNames_append, ← delimitedNames_append] at whole

theorem confines_createIndex {create : CreateIndex} {text : String}
    (written : style.createIndex create = .ok text) :
    style.Confines text (style.statement (Statement.createIndex create).blank)
      (Node.statement (.createIndex create)).literals
      (Statement.createIndex create).identifiers := by
  simp only [createIndex, bind_eq_ok, pure_eq_ok] at written
  obtain ⟨nameText, nameWritten, tableText, tableWritten, bodyText, bodyWritten, clauseText,
    clauseWritten, storageText, storageWritten, rfl⟩ := written
  obtain ⟨clauseOutside, clauseBlank, clause⟩ := tail_optionClause apart (by decide) clauseWritten
  obtain ⟨outside, storageBlank, storage⟩ := tail_storageClause apart storageWritten
  rw [Node.literals_eq, Node.ownLiterals, Node.children, Statement.children,
    IndexDefinition.children, List.flatMap_cons, List.flatMap_cons, List.flatMap_cons,
    Node.literals_tableName, Node.literals_tableName, Node.literals_indexColumnList]
  refine ⟨_, bind_ok nameWritten (bind_ok tableWritten (bind_ok bodyWritten (bind_ok clauseBlank
    (bind_ok storageBlank rfl)))), ?_⟩
  -- the options of the statement come before those of its storage format, as among its values
  have creates : Plain "CREATE " := by decide
  have keyword : Plain "INDEX " := by decide
  have opening := ((creates.append (plain_wordIf create.index.unique "UNIQUE "
    (by decide))).append keyword).append (plain_leading_existence create.existence)
  have name := (showsNames_tableName apart nameWritten).before apart _ opening
  have table := name.joined apart " ON " (by decide) (by decide)
    (showsNames_tableName apart tableWritten)
  have body := table.joined apart " " (by decide) (by decide)
    (showsNames_indexBody apart bodyWritten)
  have whole := (body.trail clause).trail storage
  rwa [← delimitedNames_append, ← delimitedNames_append, List.append_nil (style.delimitedNames _),
    ← delimitedNames_append,
    List.append_assoc (create.name.identifiers ++ create.table.identifiers)] at whole

theorem confines_tableElement {element : TableElement} {text : String}
    (valid : element.node.Valid rule) (written : style.tableElement element = .ok text) :
    style.Confines text (style.tableElement element.blank) element.node.literals
      element.identifiers := by
  cases element with
  | column column => exact confines_columnDefinition apart valid written
  | constraint c => exact confines_constraint apart valid written
  | index index => exact confines_indexConstraint apart written

theorem confines_createTable {create : CreateTable} {text : String}
    (valid : (Node.statement (.createTable create)).Valid rule)
    (written : style.createTable create = .ok text) :
    style.Confines text (style.statement (Statement.createTable create).blank)
      (Node.statement (.createTable create)).literals
      (Statement.createTable create).identifiers := by
  obtain ⟨-, below⟩ := Node.valid_iff.mp valid
  simp only [Node.children, Statement.children, List.forall_mem_cons] at below
  rw [createTable] at written
  obtain ⟨nonempty, written⟩ := refuse_bind_eq_ok.mp written
  simp only [bind_eq_ok, pure_eq_ok] at written
  obtain ⟨nameText, nameWritten, texts, elementsWritten, storageText, storageWritten, rfl⟩ :=
    written
  obtain ⟨outsides, elementsBlank, elements⟩ := shows_items apart elementsWritten
    fun element mem _ => confines_tableElement apart
      (below.2 _ (List.mem_append_left _ (List.mem_map_of_mem mem)))
  obtain ⟨outside, storageBlank, storage⟩ := tail_storageClause apart storageWritten
  rw [Node.literals_inner rfl, Node.children, Statement.children, List.flatMap_cons,
    Node.literals_tableName, List.flatMap_append, List.flatMap_map]
  refine ⟨_, refuse_bind_eq_ok.mpr ⟨by simpa using nonempty,
    bind_ok nameWritten (bind_ok elementsBlank (bind_ok storageBlank rfl))⟩, ?_⟩
  have opening : Plain "CREATE TABLE " := by decide
  have name := (showsNames_tableName apart nameWritten).before apart _
    (opening.append (plain_leading_existence create.existence))
  have body := (name.joined apart " (" (by decide) (by decide) elements).behind apart
    ")" (by decide)
  have whole := body.trail storage
  rwa [← delimitedNames_flatMap, ← delimitedNames_append, ← delimitedNames_append] at whole

theorem confines_alterAction {action : AlterAction} {text : String}
    (valid : ∀ node ∈ action.node?, node.Valid rule)
    (written : style.alterAction action = .ok text) :
    style.Confines text (style.alterAction action.blank)
      (action.node?.toList.flatMap Node.literals) action.identifiers := by
  cases action with
  | addConstraint constraint =>
      simp only [alterAction, bind_eq_ok, pure_eq_ok] at written
      obtain ⟨constraintText, constraintWritten, rfl⟩ := written
      obtain ⟨outside, blank, shows⟩ := confines_constraint apart (valid _ rfl) constraintWritten
      rw [AlterAction.node?, Option.toList_some, List.flatMap_singleton]
      exact ⟨_, bind_ok blank rfl, shows.before apart _ (by decide)⟩
  | dropConstraint constraint =>
      rw [AlterAction.node?, Option.toList_some, List.flatMap_singleton]
      exact confines_constraint apart (valid _ rfl) written
  | addColumn column =>
      simp only [alterAction, bind_eq_ok, pure_eq_ok] at written
      obtain ⟨columnText, columnWritten, rfl⟩ := written
      obtain ⟨outside, blank, shows⟩ := confines_columnDefinition apart (valid _ rfl) columnWritten
      rw [AlterAction.node?, Option.toList_some, List.flatMap_singleton]
      exact ⟨_, bind_ok blank rfl, shows.before apart _ (by decide)⟩
  | dropColumn column existence =>
      have dropped := written
      simp only [alterAction, bind_eq_ok, pure_eq_ok] at dropped
      obtain ⟨columnText, columnWritten, rfl⟩ := dropped
      have opening : Plain "DROP COLUMN " := by decide
      have shows := (showsNames_identifier apart columnWritten).before apart _
        (opening.append (plain_leading_existence existence))
      exact ShowsNames.confines shows written

theorem confines_alterTable {alter : AlterTable} {text : String}
    (valid : (Node.statement (.alterTable alter)).Valid rule)
    (written : style.alterTable alter = .ok text) :
    style.Confines text (style.statement (Statement.alterTable alter).blank)
      (Node.statement (.alterTable alter)).literals (Statement.alterTable alter).identifiers := by
  obtain ⟨-, below⟩ := Node.valid_iff.mp valid
  simp only [Node.children, Statement.children, List.forall_mem_cons] at below
  rw [alterTable] at written
  obtain ⟨nonempty, written⟩ := refuse_bind_eq_ok.mp written
  simp only [bind_eq_ok, pure_eq_ok] at written
  obtain ⟨nameText, nameWritten, texts, actionsWritten, rfl⟩ := written
  obtain ⟨outsides, actionsBlank, actions⟩ := shows_items apart actionsWritten
    fun action mem _ => confines_alterAction apart fun node isNode =>
      below.2 _ (List.mem_filterMap.mpr ⟨action, mem, isNode⟩)
  rw [Node.literals_inner rfl, Node.children, Statement.children, List.flatMap_cons,
    Node.literals_tableName]
  refine ⟨_, refuse_bind_eq_ok.mpr ⟨by simpa using nonempty,
    bind_ok nameWritten (bind_ok actionsBlank rfl)⟩, ?_⟩
  have name := (showsNames_tableName apart nameWritten).before apart "ALTER TABLE "
    (by decide)
  have whole := name.joined apart " " (by decide) (by decide) actions
  rw [← delimitedNames_flatMap, ← delimitedNames_append] at whole
  rwa [List.filterMap_eq_flatMap_toList, List.flatMap_assoc]

theorem confines_statement {s : Statement} {text : String}
    (valid : (Node.statement s).Valid rule) (written : style.statement s = .ok text) :
    style.Confines text (style.statement s.blank) (Node.statement s).literals s.identifiers := by
  cases s with
  | createIndex create => exact confines_createIndex apart written
  | createTable create => exact confines_createTable apart valid written
  | alterTable alter => exact confines_alterTable apart valid written
  | dropIndex drop =>
      rw [Node.literals_inner rfl, Node.children, Statement.children, List.flatMap_singleton,
        Node.literals_tableName]
      exact (showsNames_dropIndex apart written).confines written
  | dropTable drop =>
      rw [Node.literals_inner rfl, Node.children, Statement.children, List.flatMap_singleton,
        Node.literals_tableName]
      exact (showsNames_dropTable apart written).confines written

theorem confines_render {node : Node} {text : String} (valid : node.Valid rule)
    (written : style.render node = .ok text) :
    style.Confines text (style.render node.blank) node.literals node.identifiers := by
  cases node with
  | tableName table =>
      rw [Node.literals_tableName]
      exact (showsNames_tableName apart written).confines written
  | expr e => exact confines_exprAt apart valid written
  | columnList columns =>
      rw [Node.literals_columnList]
      exact (showsNames_columnList apart written).confines written
  | indexColumn column =>
      rw [Node.literals_indexColumn]
      exact (showsNames_indexColumn apart written).confines written
  | indexColumnList columns =>
      rw [Node.literals_indexColumnList]
      exact (showsNames_indexColumnList apart written).confines written
  | storageFormat storage => exact confines_storageFormat apart written
  | columnDefinition column => exact confines_columnDefinition apart valid written
  | constraint c => exact confines_constraint apart valid written
  | indexConstraint index => exact confines_indexConstraint apart written
  | statement s => exact confines_statement apart valid written

end Style

end Values

/-- User text cannot leave its marks: the scanner finds the values and the delimited names of a
    reachable tree in its text, in order and as they are, and outside of its literals the text is
    that of the tree with its values empty. So the texts of two trees that differ in nothing but
    their values differ in nothing but their literals. -/
theorem quoted_text_stays_quoted {style : Style} (apart : StandsApart style.quote) {node : Node}
    (reachable : Reachable (fun _ => True) node) {text : String}
    (written : style.render node = .ok text) :
    ∃ outside, style.render node.blank = .ok outside ∧
      Reading.ofText? style.quote text.toList
        = some ⟨outside, node.literals, style.delimitedNames node.identifiers⟩ ∧
      ∀ other otherText, Reachable (fun _ => True) other → other.blank = node.blank →
        style.render other = .ok otherText →
        (Reading.ofText? style.quote otherText.toList).map Reading.outside = some outside := by
  have valid {node : Node} (reachable : Reachable (fun _ => True) node) :
      node.Valid fun _ => True := reachable.valid (fun _ => id) fun _ _ => trivial
  obtain ⟨outside, blank, shows⟩ := Style.confines_render apart (valid reachable) written
  refine ⟨outside, blank, shows.ofText?_eq, fun other otherText reachable same otherWritten => ?_⟩
  obtain ⟨otherOutside, otherBlank, otherShows⟩ :=
    Style.confines_render apart (valid reachable) otherWritten
  rw [same, blank] at otherBlank
  rw [otherShows.ofText?_eq, Option.map_some, Except.ok.inj otherBlank]

/-- A name with both marks in it, and values that hold either of them. -/
theorem quoted_text_stays_quoted_both :
    Style.render {} (.storageFormat
          ⟨.regular "a\"b'c", .ofList [("k", "it's"), ("l", "\"")], {}⟩)
        = .ok "STORAGE_FORMAT \"a\"\"b'c\"(k = 'it''s', l = '\"')" ∧
      Reading.ofText? '"' "STORAGE_FORMAT \"a\"\"b'c\"(k = 'it''s', l = '\"')".toList
        = some ⟨"STORAGE_FORMAT \"a\"\"b'c\"(k = '', l = '')", ["it's", "\""], ["a\"b'c"]⟩ := by
  have built : Constructed (fun _ => True) ⟨.full, none⟩
      (.storageFormat ⟨.regular "a\"b'c", .ofList [("k", "it's"), ("l", "\"")], {}⟩) :=
    .storageFormat (show StorageFormat.build _ (.regular "a\"b'c")
      (.ofList [("k", "it's"), ("l", "\"")]) = .ok _ from rfl)
  have reachable := Reachable.construct built (by simp [Node.children])
  have apart : StandsApart (Style.quote {}) := ⟨by decide, by decide⟩
  have written : Style.render {} (.storageFormat
      ⟨.regular "a\"b'c", .ofList [("k", "it's"), ("l", "\"")], {}⟩)
      = .ok "STORAGE_FORMAT \"a\"\"b'c\"(k = 'it''s', l = '\"')" := rfl
  obtain ⟨outside, blank, reads, -⟩ := quoted_text_stays_quoted apart reachable written
  have outsideText : outside = "STORAGE_FORMAT \"a\"\"b'c\"(k = '', l = '')" :=
    (Except.ok.inj blank).symm
  rw [Node.literals_storageFormat, outsideText] at reads
  exact ⟨written, reads⟩

end DdlTree
