import DdlTree.Proofs.DataType
import DdlTree.Proofs.Production
import DdlTree.Proofs.Tree

/-! # What holds of every reachable node

The constructors establish the rules, productions go through the constructors, and every edit keeps
the rules of the node that it changes and of the nodes below it. So no sequence of calls leads to a
tree that breaks a rule.
-/

namespace DdlTree

/-! ## Data types -/

namespace DataType

theorem Obtained.inRange {type : DataType} (obtained : type.Obtained) : type.InRange := by
  cases obtained with
  | ofParts built => exact (build_eq_ok.mp built).inRange
  | ofDecimal fits _ built =>
      obtain ⟨positive, below, rfl⟩ := buildDecimal_eq_ok.mp built
      exact ⟨positive, fits, below⟩

end DataType

/-! ## Construction -/

/-- What a constructor builds keeps the rules. -/
theorem Constructed.wellFormed {types rule : DataType → Prop} {session : Session} {node : Node}
    (built : Constructed types session node) (allowed : ∀ type, types type → rule type) :
    node.WellFormed rule := by
  cases built with
  | tableName built => exact (TableName.build_eq_ok.mp built).1
  | dottedName built => exact TableName.wellFormed_of_parse built
  | column built => exact (Expr.buildColumn_eq_ok.mp built).1
  | number built => exact (Expr.buildNumber_eq_ok.mp built).1
  | string | boolean | null | binary | not | isNull => trivial
  | columnList built => exact (ColumnList.build_eq_ok.mp built).1
  | indexColumn built => exact (IndexColumn.build_eq_ok.mp built).1
  | indexColumnList built => exact (IndexColumnList.build_eq_ok.mp built).1
  | storageFormat built =>
      obtain ⟨named, -, -, rfl⟩ := StorageFormat.build_eq_ok.mp built
      exact named
  | columnDefinition isAllowed built =>
      exact ((ColumnDefinition.build_eq_ok (allowed _ isAllowed)).mp built).1
  | constraint built => exact (Constraint.build_eq_ok.mp built).1
  | indexConstraint built => exact (IndexConstraint.build_eq_ok.mp built).1
  | createIndex built => exact (CreateIndex.build_eq_ok.mp built).1
  | dropIndex built => exact (DropIndex.build_eq_ok.mp built).1
  | createTable built => exact (CreateTable.build_eq_ok.mp built).1
  | dropTable built => exact (DropTable.build_eq_ok.mp built).1
  | alterTable built => exact (AlterTable.build_eq_ok.mp built).1

/-- Every node of a tree keeps the rules. -/
def Node.Valid (rule : DataType → Prop) (node : Node) : Prop :=
  ∀ part ∈ node.dfs, part.WellFormed rule

theorem Node.valid_iff {rule : DataType → Prop} {node : Node} :
    node.Valid rule ↔ node.WellFormed rule ∧ ∀ child ∈ node.children, child.Valid rule := by
  simp only [Valid, dfs_eq_preorder]
  rw [preorder_eq, List.forall_mem_cons]
  simp only [List.mem_flatMap]
  exact and_congr_right fun _ => ⟨fun all child mem part below => all part ⟨child, mem, below⟩,
    fun all part ⟨child, mem, below⟩ => all child mem part below⟩

/-! ## Edits -/

section Edits

variable {rule : DataType → Prop}

theorem Node.children_withSpan (span : Span) (node : Node) :
    (node.withSpan span).children = node.children := by
  cases node with
  | expr e => cases e <;> rfl
  | statement s => cases s <;> rfl
  | _ => rfl

theorem Node.wellFormed_withSpan {span : Span} {node : Node} (rules : node.WellFormed rule) :
    (node.withSpan span).WellFormed rule := by
  cases node with
  | expr e => cases e <;> exact rules
  | statement s =>
      cases s with
      | createIndex create => exact ⟨rules.existence, rules.index, rules.ownColumns⟩
      | createTable create =>
          exact ⟨rules.existence, rules.nonempty, rules.distinct, rules.noDrop⟩
      | alterTable alter => exact ⟨rules.nonempty, rules.actions⟩
      | dropIndex | dropTable => exact rules
  | tableName name => exact ⟨rules.named, rules.schemaNamed⟩
  | columnList columns => exact ⟨rules.nonempty, rules.named, rules.distinct⟩
  | indexColumnList columns => exact ⟨rules.nonempty, rules.distinct⟩
  | columnDefinition column => exact ⟨rules.named, rules.typed⟩
  | indexConstraint index => exact ⟨rules.named, rules.index⟩
  | indexColumn | storageFormat | constraint => exact rules

namespace IndexColumnList

theorem setAscending_eq_ok {list changed : IndexColumnList} {position : Nat} {ascending : Bool} :
    list.setAscending position ascending = .ok changed ↔
      ∃ column, list.columns[position]? = some column ∧
        changed = { list with columns := list.columns.set position { column with ascending } } := by
  rw [setAscending, ChangeM.outcome, setAscendingStep_run]
  cases list.columns[position]? with
  | none => simp
  | some column => simp [eq_comm]

/-- What holds of every column, whatever its direction, still holds after a turn. -/
private theorem forall_of_setAscending {list changed : IndexColumnList} {position : Nat}
    {ascending : Bool} (turned : list.setAscending position ascending = .ok changed)
    {P : IndexColumn → Prop} (undirected : ∀ column, P column → P { column with ascending })
    (all : ∀ column ∈ list.columns, P column) : ∀ column ∈ changed.columns, P column := by
  obtain ⟨column, found, rfl⟩ := setAscending_eq_ok.mp turned
  intro other mem
  rcases List.mem_or_eq_of_mem_set mem with mem | rfl
  · exact all other mem
  · exact undirected column (all column (List.mem_of_getElem? found))

theorem wellFormed_of_setAscending {list changed : IndexColumnList} {position : Nat}
    {ascending : Bool} (turned : list.setAscending position ascending = .ok changed)
    (rules : list.WellFormed) : changed.WellFormed := by
  obtain ⟨column, found, rfl⟩ := setAscending_eq_ok.mp turned
  refine ⟨by simpa using rules.nonempty, ?_⟩
  -- two lists are the same once all their columns are turned upwards
  let upward (column : IndexColumn) : IndexColumn := { column with ascending := true }
  have same : (list.columns.set position { column with ascending }).map upward
      = list.columns.map upward := by
    rw [List.map_set]
    apply List.ext_getElem?
    intro i
    rw [List.getElem?_set]
    split
    · rename_i here
      subst here
      obtain ⟨inside, -⟩ := List.getElem?_eq_some_iff.mp found
      rw [List.getElem?_map, found, if_pos (by simpa using inside)]
      rfl
    · rfl
  have distinct : (list.columns.map upward).Pairwise fun a b => a.sameColumn b = false :=
    List.pairwise_map.mpr rules.distinct
  rw [← same] at distinct
  exact List.pairwise_map.mp distinct

private theorem valid_of_setAscending {list changed : IndexColumnList} {position : Nat}
    {ascending : Bool} (turned : list.setAscending position ascending = .ok changed)
    (valid : (Node.indexColumnList list).Valid rule) :
    (Node.indexColumnList changed).Valid rule := by
  rw [Node.valid_iff] at valid ⊢
  simp only [Node.children, List.forall_mem_map] at valid ⊢
  refine ⟨wellFormed_of_setAscending turned valid.1, ?_⟩
  apply forall_of_setAscending turned _ valid.2
  intro column columnValid
  obtain ⟨named, below⟩ := Node.valid_iff.mp columnValid
  exact Node.valid_iff.mpr ⟨named, below⟩

end IndexColumnList

/-- A name stands at no position but the given one. -/
theorem ColumnList.holdsElsewhere_eq_false {columns : List Identifier} {position : Nat}
    {name : String} :
    holdsElsewhere columns position name = false ↔
      ∀ (i : Nat) (inside : i < columns.length), i ≠ position → columns[i].name ≠ name := by
  rw [holdsElsewhere, List.any_eq_false]
  constructor
  · intro free i inside elsewhere
    have mem : (columns[i], i) ∈ columns.zipIdx :=
      List.mem_zipIdx_iff_getElem?.mpr (List.getElem?_eq_getElem inside)
    simpa [elsewhere] using free _ mem
  · rintro free ⟨column, i⟩ mem
    obtain ⟨inside, isColumn⟩ :=
      List.getElem?_eq_some_iff.mp (List.mem_zipIdx_iff_getElem?.mp mem)
    have differs := free i inside
    rw [isColumn] at differs
    simpa using differs

theorem ColumnList.rename_eq_ok {list changed : ColumnList} {position : Nat}
    {column : Identifier} :
    list.rename position column = .ok changed ↔
      column.isEmpty = false ∧ holdsElsewhere list.columns position column.name = false ∧
        position < list.columns.length ∧
        changed = { list with columns := list.columns.set position column } := by
  rw [rename, ChangeM.outcome, renameStep_run]
  by_cases empty : column.isEmpty
  · simp [empty]
  by_cases elsewhere : holdsElsewhere list.columns position column.name
  · simp [empty, elsewhere]
  by_cases inside : position < list.columns.length <;> simp [empty, elsewhere, inside, eq_comm]

/-- A column list keeps its rules when a column is renamed. -/
theorem ColumnList.wellFormed_of_rename {list changed : ColumnList} {position : Nat}
    {column : Identifier} (renamed : list.rename position column = .ok changed)
    (rules : list.WellFormed) : changed.WellFormed := by
  obtain ⟨named, free, -, rfl⟩ := rename_eq_ok.mp renamed
  refine ⟨by simpa using rules.nonempty, fun other mem => ?_, ?_⟩
  · rcases List.mem_or_eq_of_mem_set mem with mem | rfl
    · exact rules.named other mem
    · exact named
  · have distinct := List.pairwise_iff_getElem.mp (List.pairwise_map.mp rules.distinct)
    rw [List.Nodup, List.pairwise_map, List.pairwise_iff_getElem]
    intro i j iInside jInside below
    rw [List.length_set] at iInside jInside
    rw [List.getElem_set, List.getElem_set]
    split
    · rw [if_neg (by omega)]
      exact (holdsElsewhere_eq_false.mp free j jInside (by omega)).symm
    · split
      · exact holdsElsewhere_eq_false.mp free i iInside (by omega)
      · exact distinct i j iInside jInside below

private theorem Constraint.wellFormed_of_setName {constraint changed : Constraint}
    {name : Option TableName} (renamed : constraint.setName name = .ok changed)
    (rules : constraint.WellFormed) : changed.WellFormed := by
  obtain ⟨allowed, renamed⟩ := refuse_eq_ok.mp renamed
  obtain rfl := Except.ok.inj renamed
  obtain ⟨old, body, span⟩ := constraint
  cases body with
  | drop d =>
      refine ⟨rules.existence, ?_, rules.grouping⟩
      rintro rfl
      simpa [isDrop, constraintType] using allowed
  | primaryKey | unique | check | foreignKey => exact rules

private theorem valid_of_editOptions {node edited : Node} {change : Options → Options}
    (applied : node.editOptions change = .ok edited) (valid : node.Valid rule) :
    edited.Valid rule := by
  rw [Node.editOptions] at applied
  split at applied
  · rename_i options _
    obtain rfl := Except.ok.inj applied
    rw [Node.valid_iff] at valid ⊢
    obtain ⟨rules, below⟩ := valid
    cases node with
    | statement s =>
        cases s with
        | createIndex create => exact ⟨⟨rules.existence, rules.index, rules.ownColumns⟩, below⟩
        | _ => exact ⟨rules, below⟩
    | _ => exact ⟨rules, below⟩
  · simp at applied

private theorem CreateIndex.valid_of_setAscending {create changed : CreateIndex} {position : Nat}
    {ascending : Bool} (turned : create.setAscending position ascending = .ok changed)
    (valid : (Node.statement (.createIndex create)).Valid rule) :
    (Node.statement (.createIndex changed)).Valid rule := by
  simp only [setAscending, bind_eq_ok, pure_eq_ok] at turned
  obtain ⟨columns, turned, rfl⟩ := turned
  rw [Node.valid_iff] at valid ⊢
  obtain ⟨⟨existence, index, ownColumns⟩, below⟩ := valid
  simp only [Node.children, Statement.children, IndexDefinition.children, List.forall_mem_cons]
    at below ⊢
  obtain ⟨name, table, list, storage⟩ := below
  have listValid := IndexColumnList.valid_of_setAscending turned list
  have listRules : columns.WellFormed := (Node.valid_iff.mp listValid).1
  refine ⟨⟨existence, ⟨listRules.nonempty, fun joined => ?_⟩, fun plain => ?_⟩, name, table,
    listValid, storage⟩
  · exact IndexColumnList.forall_of_setAscending turned (fun _ => id) (index.qualified joined)
  · exact IndexColumnList.forall_of_setAscending turned (fun _ => id) (ownColumns plain)

private theorem Constraint.valid_of_setName {constraint changed : Constraint}
    {name : Option TableName} (renamed : constraint.setName name = .ok changed)
    (valid : (Node.constraint constraint).Valid rule)
    (named : ∀ part ∈ name, (Node.tableName part).Valid rule) :
    (Node.constraint changed).Valid rule := by
  rw [Node.valid_iff] at valid ⊢
  obtain ⟨rules, below⟩ := valid
  refine ⟨wellFormed_of_setName renamed rules, ?_⟩
  obtain rfl := Except.ok.inj (refuse_eq_ok.mp renamed).2
  simp only [Node.children, List.forall_mem_append, List.forall_mem_map, Option.mem_toList]
    at below ⊢
  exact ⟨named, below.2⟩

theorem Edit.checked_eq_ok {α : Type} {wrap : α → Node} {result : Except BuildError α}
    {node : Node} :
    checked wrap result = .ok node ↔ ∃ value, result = .ok value ∧ wrap value = node := by
  cases result <;> simp [checked]

/-- An edit keeps the rules, if the names that it puts in keep them. -/
theorem Edit.valid_of_apply {edit : Edit} {node edited : Node}
    (applied : edit.apply node = .ok edited) (valid : node.Valid rule)
    (names : ∀ name ∈ edit.names, (Node.tableName name).Valid rule) : edited.Valid rule := by
  unfold apply at applied
  obtain ⟨rules, below⟩ := Node.valid_iff.mp valid
  split at applied
  · -- a new position
    obtain rfl := Except.ok.inj applied
    rw [Node.valid_iff, Node.children_withSpan]
    exact ⟨Node.wellFormed_withSpan rules, below⟩
  · -- an index that is unique or not
    obtain rfl := Except.ok.inj applied
    rw [Node.valid_iff]
    have index := rules.index
    exact ⟨⟨rules.existence, ⟨index.nonempty, index.qualified⟩, rules.ownColumns⟩, below⟩
  · -- a new name of an index
    obtain rfl := Except.ok.inj applied
    rw [Node.valid_iff]
    refine ⟨⟨rules.existence, rules.index, rules.ownColumns⟩, ?_⟩
    simp only [Node.children, Statement.children, List.forall_mem_cons] at below ⊢
    exact ⟨names _ (List.mem_singleton_self _), below.2⟩
  · -- a direction in a statement
    obtain ⟨create, turned, rfl⟩ := checked_eq_ok.mp applied
    exact CreateIndex.valid_of_setAscending turned valid
  · -- a direction in a list
    obtain ⟨columns, turned, rfl⟩ := checked_eq_ok.mp applied
    exact IndexColumnList.valid_of_setAscending turned valid
  · -- a new name of a table
    obtain rfl := Except.ok.inj applied
    rw [Node.valid_iff]
    refine ⟨⟨rules.existence, rules.nonempty, rules.distinct, rules.noDrop⟩, ?_⟩
    simp only [Node.children, Statement.children, List.forall_mem_cons] at below ⊢
    exact ⟨names _ (List.mem_singleton_self _), below.2⟩
  · -- a new name of a constraint
    obtain ⟨constraint, renamed, rfl⟩ := checked_eq_ok.mp applied
    exact Constraint.valid_of_setName renamed valid fun part given =>
      names part (Option.mem_toList.mpr given)
  · -- a column that allows nulls or not
    obtain rfl := Except.ok.inj applied
    rw [Node.valid_iff]
    exact ⟨⟨rules.named, rules.typed⟩, below⟩
  · -- a new name of a column
    obtain ⟨columns, renamed, rfl⟩ := checked_eq_ok.mp applied
    rw [Node.valid_iff]
    exact ⟨ColumnList.wellFormed_of_rename renamed rules, below⟩
  · exact valid_of_editOptions applied valid
  · exact valid_of_editOptions applied valid
  · simp at applied

end Edits

/-- Constructors, productions and edits lead to trees that keep the rules and to no others. -/
theorem Reachable.valid {types rule : DataType → Prop} {node : Node}
    (reachable : Reachable types node) (allowed : ∀ type, types type → rule type)
    (obtained : ∀ type, DataType.Obtained type → rule type) : node.Valid rule := by
  induction reachable with
  | construct built _ ih => exact Node.valid_iff.mpr ⟨built.wellFormed allowed, ih⟩
  | produce _ built ih =>
      obtain ⟨constructed, parts⟩ := Production.build_madeFrom obtained built
      exact Node.valid_iff.mpr ⟨constructed.wellFormed fun _ => id, fun child mem =>
        ih child (parts mem)⟩
  | edit _ _ applied before names => exact Edit.valid_of_apply applied before names

/-- Reachable nodes are well formed: with data types that were given out by the functions for data
    types, every node of a reachable tree keeps every rule. -/
theorem reachable_wellFormed {node : Node} (reachable : Reachable DataType.Obtained node) :
    ∀ part ∈ node.dfs, part.WellFormed DataType.InRange :=
  reachable.valid (fun _ => DataType.Obtained.inRange) fun _ => DataType.Obtained.inRange

/-- A column read from a production and forbidden to be null afterwards. -/
theorem reachable_wellFormed_column :
    Reachable DataType.Obtained (.columnDefinition
        { name := .regular "a", dataType := .varchar 10, notNull := true }) ∧
      ∀ part ∈ (Node.columnDefinition
        { name := .regular "a", dataType := .varchar 10, notNull := true }).dfs,
        part.WellFormed DataType.InRange := by
  have read : Production.build {} .columnDefinition
      [.text "a", .tag "VARCHAR", .int 10, .null, .bool false, .null]
      = .ok (.columnDefinition
          { name := .regular "a", dataType := .varchar 10, notNull := false }) := rfl
  have column : Reachable DataType.Obtained (.columnDefinition
      { name := .regular "a", dataType := .varchar 10, notNull := false }) :=
    .produce (by simp [Argument.nodesOfAll, Argument.nodesOf]) read
  have applied : (Edit.setNotNull true).apply (.columnDefinition
      { name := .regular "a", dataType := .varchar 10, notNull := false })
      = .ok (.columnDefinition
          { name := .regular "a", dataType := .varchar 10, notNull := true }) := rfl
  have reachable := Reachable.edit column (by simp [Edit.names]) applied
  exact ⟨reachable, reachable_wellFormed reachable⟩

end DdlTree
