import DdlTree.Proofs.Invariant

/-! # Columns of a key

What renaming does to a list of key columns. A column can be given any name that stands at no other
position, its own name included, so the names stay distinct however often columns are renamed; and a
renaming that is refused leaves the list as it was.
-/

namespace DdlTree

namespace ColumnList

/-- The list that an attempt to rename a column leaves. -/
def attempt (list : ColumnList) (edit : Nat × Identifier) : ColumnList :=
  (renameStep edit.1 edit.2).left list

/-- Whatever refuses a renaming does so before the list is written to. -/
theorem allOrNothing_renameStep (position : Nat) (column : Identifier) :
    (renameStep position column).AllOrNothing := by
  intro list error after failed
  rw [renameStep_run] at failed
  split at failed
  · cases failed; rfl
  · split at failed
    · cases failed; rfl
    · split at failed <;> cases failed
      rfl

theorem attempt_of_ok {list changed : ColumnList} {edit : Nat × Identifier}
    (renamed : list.rename edit.1 edit.2 = .ok changed) :
    list.attempt edit = changed :=
  ChangeM.left_of_outcome_ok renamed

theorem attempt_of_error {list : ColumnList} {edit : Nat × Identifier} {error : BuildError}
    (refused : list.rename edit.1 edit.2 = .error error) :
    list.attempt edit = list :=
  (allOrNothing_renameStep _ _).left_of_outcome_error refused

/-- When a column is renamed: there is one at the position, and the new name is not empty and stands
    nowhere else. -/
theorem isOk_rename {list : ColumnList} {position : Nat} {column : Identifier} :
    (list.rename position column).isOk ↔
      position < list.columns.length ∧ column.isEmpty = false ∧
        ∀ (other : Nat) (inside : other < list.columns.length), other ≠ position →
          list.columns[other].name ≠ column.name := by
  simp only [← holdsElsewhere_eq_false, isOk_iff_exists, rename_eq_ok]
  constructor
  · rintro ⟨changed, named, free, inside, -⟩
    exact ⟨inside, named, free⟩
  · rintro ⟨inside, named, free⟩
    exact ⟨_, named, free, inside, rfl⟩

/-- A column keeps its name, whether it is delimited or not. -/
theorem isOk_rename_same {list : ColumnList} (rules : list.WellFormed) {position : Nat}
    {column : Identifier} (inside : position < list.columns.length)
    (same : list.columns[position].name = column.name) : (list.rename position column).isOk := by
  have named : column.isEmpty = false := by
    have before := rules.named _ (List.getElem_mem inside)
    rwa [Identifier.isEmpty, same] at before
  refine isOk_rename.mpr ⟨inside, named, fun other otherInside elsewhere twice => elsewhere ?_⟩
  have otherNamed : other < (list.columns.map Identifier.name).length := by simpa using otherInside
  have positionNamed : position < (list.columns.map Identifier.name).length := by simpa using inside
  have sameNames : (list.columns.map Identifier.name)[other]
      = (list.columns.map Identifier.name)[position] := by
    rw [List.getElem_map, List.getElem_map, twice, same]
  exact rules.distinct.getElem_inj_iff.mp sameNames

theorem wellFormed_attempt_rename {list : ColumnList} (rules : list.WellFormed)
    (edit : Nat × Identifier) :
    (list.attempt edit).WellFormed ∧
      (list.attempt edit).columns.length = list.columns.length := by
  cases renamed : list.rename edit.1 edit.2 with
  | error error =>
      rw [attempt_of_error renamed]
      exact ⟨rules, rfl⟩
  | ok changed =>
      rw [attempt_of_ok renamed]
      refine ⟨wellFormed_of_rename renamed rules, ?_⟩
      obtain ⟨-, -, -, rfl⟩ := rename_eq_ok.mp renamed
      exact List.length_set

theorem wellFormed_foldl_rename {list : ColumnList} (rules : list.WellFormed)
    (edits : List (Nat × Identifier)) :
    (edits.foldl attempt list).WellFormed ∧
      (edits.foldl attempt list).columns.length = list.columns.length := by
  induction edits generalizing list with
  | nil => exact ⟨rules, rfl⟩
  | cons edit rest ih =>
      obtain ⟨kept, sameLength⟩ := wellFormed_attempt_rename rules edit
      obtain ⟨keptAfter, sameAfter⟩ := ih kept
      exact ⟨keptAfter, sameAfter.trans sameLength⟩

end ColumnList

/-- What a list of key columns promises, after any attempts to rename its columns. It has as many
    columns as it was built with, and their names are not empty and pairwise distinct. A further
    renaming is carried out exactly if there is a column at the position and the new name is not
    empty and stands nowhere else, so also if it is the name that the column has; then it changes
    that column and nothing else, and otherwise nothing at all. -/
theorem key_columns_stay_distinct {list : ColumnList}
    (built : (∃ columns, ColumnList.build columns = .ok list) ∨
      ∃ names, ColumnList.ofNames names = .ok list)
    (edits : List (Nat × Identifier)) :
    let held := edits.foldl ColumnList.attempt list
    held.columns ≠ [] ∧ held.columns.length = list.columns.length ∧
      (∀ column ∈ held.columns, column.isEmpty = false) ∧
      (held.columns.map Identifier.name).Nodup ∧
      ∀ position column,
        ((held.rename position column).isOk ↔
          position < held.columns.length ∧ column.isEmpty = false ∧
            ∀ (other : Nat) (inside : other < held.columns.length), other ≠ position →
              held.columns[other].name ≠ column.name) ∧
        (∀ inside : position < held.columns.length, held.columns[position].name = column.name →
          (held.rename position column).isOk) ∧
        (∀ changed, held.rename position column = .ok changed →
          changed = { held with columns := held.columns.set position column } ∧
            held.attempt (position, column) = changed) ∧
        ∀ error, held.rename position column = .error error →
          held.attempt (position, column) = held := by
  intro held
  have rules : list.WellFormed := by
    rcases built with ⟨columns, built⟩ | ⟨names, built⟩
    · exact (ColumnList.build_eq_ok.mp built).1
    · exact (ColumnList.build_eq_ok.mp built).1
  obtain ⟨kept, sameLength⟩ := ColumnList.wellFormed_foldl_rename rules edits
  refine ⟨kept.nonempty, sameLength, kept.named, kept.distinct, fun position column => ?_⟩
  refine ⟨ColumnList.isOk_rename, ColumnList.isOk_rename_same kept, fun changed renamed => ?_,
    fun error refused => ColumnList.attempt_of_error refused⟩
  obtain ⟨-, -, -, isChanged⟩ := ColumnList.rename_eq_ok.mp renamed
  exact ⟨isChanged, ColumnList.attempt_of_ok renamed⟩

/-- A key of two columns. Its second column is delimited anew; a name that the other column has, an
    empty one, and a position without a column are refused. -/
theorem key_columns_stay_distinct_pair :
    let list : ColumnList := { columns := [.regular "id", .regular "region"] }
    let edits : List (Nat × Identifier) :=
      [(1, .delimited "region"), (0, .delimited "region"), (0, .regular ""), (2, .regular "day")]
    let held := edits.foldl ColumnList.attempt list
    ColumnList.ofNames ["id", "region"] = .ok list ∧
      held.columns = [.regular "id", .delimited "region"] ∧
      (held.columns.map Identifier.name).Nodup ∧
      (held.rename 1 (.regular "region")).isOk ∧ ¬(held.rename 0 (.regular "region")).isOk := by
  intro list edits held
  obtain ⟨-, -, -, distinct, further⟩ :=
    @key_columns_stay_distinct list (.inr ⟨["id", "region"], rfl⟩) edits
  refine ⟨rfl, rfl, distinct, (further 1 (.regular "region")).2.1 (by decide) rfl, ?_⟩
  intro renamed
  obtain ⟨-, -, free⟩ := (further 0 (.regular "region")).1.mp renamed
  exact free 1 (by decide) (by decide) rfl

end DdlTree
