import DdlTree.Node.Production

/-! # How many arguments productions take

Every kind of node has a fixed number of arguments, except that a constraint is of a kind of its
own, named by its first argument. Any other number is refused before an argument is read.
-/

namespace DdlTree

/-- How many arguments the production of a kind takes. Those of a constraint depend on the first. -/
def NodeKind.arity? : NodeKind → Option Nat
  | .nullConstant => some 0
  | .numericConstant | .stringConstant | .booleanConstant | .not | .columnList
  | .indexColumnList => some 1
  | .tableName | .columnReference | .isNull | .storageFormat | .dropIndex | .alterTable => some 2
  | .binaryOperator | .indexColumn | .dropTable => some 3
  | .createTable => some 4
  | .indexConstraint => some 5
  | .columnDefinition => some 6
  | .createIndex => some 8
  | .constraintDefinition => none

namespace Production

/-- How many arguments follow the kind of a constraint. -/
def SubKind.arity : SubKind → Nat
  | .primaryKey | .unique | .check => 2
  | .drop => 5
  | .foreignKey => 10

variable {session : Session} {arguments : List Argument}

theorem build_of_length {kind : NodeKind} {count : Nat} (arity : kind.arity? = some count)
    (other : arguments.length ≠ count) :
    build session kind arguments = refuseCount kind count arguments := by
  cases kind with
  | constraintDefinition => cases arity
  | _ =>
      obtain rfl := Option.some.inj arity
      simp only [build, tableName.eq_def, columnReference.eq_def, numericConstant.eq_def,
        stringConstant.eq_def, booleanConstant.eq_def, nullConstant.eq_def, binaryOperator.eq_def,
        not.eq_def, isNull.eq_def, columnList.eq_def, indexColumn.eq_def, indexColumnList.eq_def,
        storageFormat.eq_def, columnDefinition.eq_def, indexConstraint.eq_def, createIndex.eq_def,
        dropIndex.eq_def, createTable.eq_def, dropTable.eq_def, alterTable.eq_def]
      split
      · exact absurd rfl other
      · rfl

theorem ofSubKind_of_length {subKind : SubKind} (other : arguments.length ≠ subKind.arity) :
    ofSubKind session subKind arguments
      = refuseCount .constraintDefinition subKind.arity arguments := by
  cases subKind
  all_goals
    simp only [ofSubKind, keyConstraint.eq_def, checkConstraint.eq_def,
      foreignKeyConstraint.eq_def, dropConstraint.eq_def]
    split
    · exact absurd rfl other
    · rfl

theorem checkedDropColumn_of_length (other : arguments.length ≠ 2) :
    checkedDropColumn arguments = refuseCount .alterTable 2 arguments := by
  rw [checkedDropColumn.eq_def]
  split
  · exact absurd rfl other
  · rfl

end Production

end DdlTree
