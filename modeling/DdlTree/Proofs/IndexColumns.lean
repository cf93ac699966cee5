import DdlTree.Proofs.Invariant
import DdlTree.Proofs.RenderStatement
import DdlTree.Proofs.Tells.Part
import DdlTree.Proofs.UserText

/-! # Columns of an index

When a list of index columns is accepted. Two columns of an index differ in one of the identifiers
that they are written with: in its name, or in whether it is delimited. A renderer delimits some
names on its own, so columns that differ in the latter only can come out alike; columns with
different names cannot.
-/

namespace DdlTree

/-- The names of a column: its own one behind those of its table, if it names one. -/
def IndexColumn.names (column : IndexColumn) : List String :=
  column.identifiers.map Identifier.name

/-- A column as it is written in the default style, whatever its direction. -/
def IndexColumn.render (column : IndexColumn) : Except RenderError String :=
  (Node.indexColumn { column with ascending := true }).render

/-- The list that an attempt to turn a column leaves. -/
def IndexColumnList.attempt (list : IndexColumnList) (turn : Nat × Bool) : IndexColumnList :=
  (setAscendingStep turn.1 turn.2).left list

/-! ## Acceptance -/

theorem TableName.sameObject_iff {a b : TableName} :
    a.sameObject b ↔ a.identifiers = b.identifiers := by
  obtain ⟨schema, name, span⟩ := a
  obtain ⟨schema', name', span'⟩ := b
  cases schema <;> cases schema' <;> simp [sameObject, identifiers]

theorem TableName.identifiers_ne_nil (table : TableName) : table.identifiers ≠ [] :=
  List.append_ne_nil_of_right_ne_nil _ (List.cons_ne_nil _ _)

/-- Two columns are written with the same identifiers if they and their tables are. -/
theorem columnIdentifiers_eq_iff {table other : Option TableName} {column name : Identifier} :
    columnIdentifiers table column = columnIdentifiers other name ↔
      table.map TableName.identifiers = other.map TableName.identifiers ∧ column = name := by
  have longer (table : TableName) (column other : Identifier) :
      table.identifiers ++ [column] ≠ [other] := by
    intro same
    have lengths := congrArg List.length same
    exact table.identifiers_ne_nil (List.length_eq_zero_iff.mp (by simpa using lengths))
  cases table with
  | none => cases other with
      | none => simp [columnIdentifiers]
      | some other => simp [columnIdentifiers, (longer other name column).symm]
  | some table => cases other with
      | none => simp [columnIdentifiers, longer]
      | some other => simp [columnIdentifiers]

/-- Two index columns are one if they are written with the same identifiers. -/
theorem IndexColumn.sameColumn_iff {a b : IndexColumn} :
    a.sameColumn b ↔ a.identifiers = b.identifiers := by
  rw [identifiers, identifiers, columnIdentifiers_eq_iff, sameColumn, Bool.and_eq_true, beq_iff_eq,
    and_comm]
  refine and_congr_left' ?_
  cases a.table <;> cases b.table <;> simp [TableName.sameObject_iff]

theorem IndexColumn.sameColumn_eq_false_iff {a b : IndexColumn} :
    a.sameColumn b = false ↔ a.identifiers ≠ b.identifiers := by
  rw [← Bool.not_eq_true, sameColumn_iff]

namespace IndexColumnList

theorem wellFormed_iff {list : IndexColumnList} :
    list.WellFormed ↔
      list.columns ≠ [] ∧ list.columns.Pairwise fun a b => a.identifiers ≠ b.identifiers := by
  simp only [← IndexColumn.sameColumn_eq_false_iff]
  exact ⟨fun rules => ⟨rules.nonempty, rules.distinct⟩, fun ⟨nonempty, distinct⟩ =>
    ⟨nonempty, distinct⟩⟩

/-- What is refused has a column to the left with the same identifiers. -/
theorem check_eq_error {before columns : List IndexColumn} {error : BuildError}
    (refused : check before columns = .error error) :
    ∃ left column right, columns = left ++ column :: right ∧
      (∃ earlier ∈ left ++ before, earlier.identifiers = column.identifiers) ∧
      error = .malformed .indexColumnList (.indexedTwice column.column.text) := by
  induction columns generalizing before with
  | nil => simp [check] at refused
  | cons column rest ih =>
      rw [check] at refused
      split at refused
      · rename_i twice
        obtain ⟨earlier, mem, same⟩ := List.any_eq_true.mp twice
        exact ⟨[], column, rest, rfl, ⟨earlier, mem, IndexColumn.sameColumn_iff.mp same⟩,
          (Except.error.inj refused).symm⟩
      · obtain ⟨left, other, right, rfl, ⟨earlier, mem, same⟩, isError⟩ := ih refused
        refine ⟨column :: left, other, right, rfl, ⟨earlier, ?_, same⟩, isError⟩
        simp only [List.mem_append, List.mem_cons] at mem ⊢
        tauto

theorem build_eq_error {columns : List IndexColumn} {error : BuildError} (nonempty : columns ≠ [])
    (refused : build columns = .error error) :
    ∃ left column right, columns = left ++ column :: right ∧
      (∃ earlier ∈ left, earlier.identifiers = column.identifiers) ∧
      error = .malformed .indexColumnList (.indexedTwice column.column.text) := by
  have present : columns.isEmpty = false := by simpa using nonempty
  simp only [build, present, Bool.false_eq_true, ↓reduceIte] at refused
  cases checked : check [] columns with
  | ok checked' => simp [checked] at refused
  | error other =>
      rw [checked, error_bind] at refused
      obtain rfl := Except.error.inj refused
      simpa using check_eq_error checked

theorem allOrNothing_setAscendingStep (position : Nat) (ascending : Bool) :
    (setAscendingStep position ascending).AllOrNothing := by
  intro list error after failed
  rw [setAscendingStep_run] at failed
  split at failed <;> cases failed
  rfl

theorem wellFormed_attempt {list : IndexColumnList} (rules : list.WellFormed) (turn : Nat × Bool) :
    (list.attempt turn).WellFormed := by
  cases turned : list.setAscending turn.1 turn.2 with
  | ok changed =>
      rw [attempt, ChangeM.left_of_outcome_ok turned]
      exact wellFormed_of_setAscending turned rules
  | error error =>
      rw [attempt, (allOrNothing_setAscendingStep _ _).left_of_outcome_error turned]
      exact rules

theorem wellFormed_foldl_attempt {list : IndexColumnList} (rules : list.WellFormed)
    (turns : List (Nat × Bool)) : (turns.foldl attempt list).WellFormed := by
  induction turns generalizing list with
  | nil => exact rules
  | cons turn rest ih => exact ih (wellFormed_attempt rules turn)

end IndexColumnList

/-! ## Texts -/

theorem IndexColumn.names_relabel {mark : Identifier → Identifier}
    (keeps : ∀ identifier, (mark identifier).name = identifier.name) (column : IndexColumn) :
    (column.relabel mark).names = column.names := by
  obtain ⟨table, column, ascending, span⟩ := column
  cases table with
  | none => simp [relabel, names, identifiers, columnIdentifiers, keeps]
  | some table =>
      obtain ⟨schema, name, span⟩ := table
      cases schema <;>
        simp [relabel, names, identifiers, columnIdentifiers, TableName.identifiers,
          TableName.relabel, keeps]

/-- Columns that come out alike have the same names. -/
theorem IndexColumn.names_eq_of_render_eq {a b : IndexColumn} {text : String}
    (writtenA : a.render = .ok text) (writtenB : b.render = .ok text) : a.names = b.names := by
  have apart : StandsApart (Style.quote {}) := ⟨by decide, by decide⟩
  have scannedA := (Style.scans_indexColumn apart writtenA).scan_eq
  have scannedB := (Style.scans_indexColumn apart writtenB).scan_eq
  have relabelled := (IndexColumn.tells {}).image_eq trivial trivial (scannedA.symm.trans scannedB)
  have keeps (identifier : Identifier) : (Style.mark {} identifier).name = identifier.name := rfl
  have same := congrArg names relabelled
  rw [names_relabel keeps, names_relabel keeps] at same
  exact same

/-! ## Indexes -/

/-- What a list of index columns promises. It is accepted if it has a column and no two columns are
    written with the same identifiers. In an accepted list, whichever columns are turned, two
    columns that come out alike have the same names, and one of these is delimited in one of the
    columns only. And a list that has a column is refused for nothing but a column that is there
    twice. -/
theorem index_columns_distinct (columns : List IndexColumn) :
    ((IndexColumnList.build columns).isOk ↔
        columns ≠ [] ∧ columns.Pairwise fun a b => a.identifiers ≠ b.identifiers) ∧
      (∀ list, IndexColumnList.build columns = .ok list → ∀ turns : List (Nat × Bool),
        (turns.foldl IndexColumnList.attempt list).columns.Pairwise fun a b =>
          ∀ text, a.render = .ok text → b.render = .ok text →
            a.names = b.names ∧ a.identifiers ≠ b.identifiers) ∧
      ∀ error, columns ≠ [] → IndexColumnList.build columns = .error error →
        ∃ left column right, columns = left ++ column :: right ∧
          (∃ earlier ∈ left, earlier.identifiers = column.identifiers) ∧
          error = .malformed .indexColumnList (.indexedTwice column.column.text) := by
  refine ⟨?_, fun list built turns => ?_, fun error => IndexColumnList.build_eq_error⟩
  · constructor
    · intro accepted
      cases built : IndexColumnList.build columns with
      | ok list =>
          obtain ⟨rules, rfl⟩ := IndexColumnList.build_eq_ok.mp built
          exact IndexColumnList.wellFormed_iff.mp rules
      | error error => simp [built] at accepted
    · intro distinct
      rw [IndexColumnList.build_eq_ok.mpr ⟨IndexColumnList.wellFormed_iff.mpr distinct, rfl⟩]
      rfl
  · have rules := (IndexColumnList.build_eq_ok.mp built).1
    have distinct := (IndexColumnList.wellFormed_iff.mp
      (IndexColumnList.wellFormed_foldl_attempt rules turns)).2
    exact distinct.imp fun differ text writtenA writtenB =>
      ⟨IndexColumn.names_eq_of_render_eq writtenA writtenB, differ⟩

/-- One name under two tables; and a name twice under one table, which is refused. -/
theorem index_columns_distinct_tables :
    let column (table : Option TableName) (ascending : Bool) : IndexColumn :=
      ⟨table, .regular "id", ascending, {}⟩
    let orders : TableName := ⟨none, .regular "orders", {}⟩
    let columns := [column none true, column (some orders) false]
    let turned := IndexColumnList.attempt { columns } (1, true)
    turned.columns = [column none true, column (some orders) true] ∧
      (turned.columns.Pairwise fun a b =>
        ∀ text, a.render = .ok text → b.render = .ok text →
          a.names = b.names ∧ a.identifiers ≠ b.identifiers) ∧
      ∃ left again right, [column none true, column none false] = left ++ again :: right ∧
        ∃ earlier ∈ left, earlier.identifiers = again.identifiers := by
  intro column orders columns turned
  obtain ⟨-, distinct, -⟩ := index_columns_distinct columns
  obtain ⟨-, -, refused⟩ := index_columns_distinct [column none true, column none false]
  refine ⟨rfl, distinct _ rfl [(1, true)], ?_⟩
  obtain ⟨left, again, right, parts, twice, -⟩ := refused _ (List.cons_ne_nil _ _) rfl
  exact ⟨left, again, right, parts, twice⟩

/-- A reserved name twice, delimited once: the list is accepted, and the columns come out alike. A
    list of key columns with these names is refused. -/
theorem index_column_twice :
    let columns : List IndexColumn :=
      [⟨none, .regular "order", true, {}⟩, ⟨none, .delimited "order", true, {}⟩]
    IndexColumnList.build columns = .ok { columns } ∧
      columns.map IndexColumn.render = [.ok "\"order\"", .ok "\"order\""] ∧
      ColumnList.build (columns.map IndexColumn.column)
        = .error (.malformed .columnList (.duplicateColumn "\"order\"")) :=
  ⟨rfl, rfl, rfl⟩

end DdlTree
