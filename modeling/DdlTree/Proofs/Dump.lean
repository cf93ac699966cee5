import DdlTree.Dump
import DdlTree.Proofs.Erase
import DdlTree.Proofs.JsonText

/-! # Dumps tell trees

Two nodes have one dump exactly if they are equal without positions: each part of a node is written
in a way that tells all of it but where it stands.
-/

namespace DdlTree

/-! ## Dumps of optional parts and of lists -/

namespace Json

theorem tagged_eq_iff {tag other : String} {a b : Json} :
    tagged tag a = tagged other b ↔ tag = other ∧ a = b := by
  simp [tagged]

/-- A missing part is written in a way that no part is. -/
theorem optional_eq_iff {α β : Type} {dump : α → Json} {erase : α → β}
    (shown : ∀ part, dump part ≠ .null) (same : ∀ {a b}, dump a = dump b ↔ erase a = erase b)
    {a? b? : Option α} : optional dump a? = optional dump b? ↔ a?.map erase = b?.map erase := by
  cases a? with
  | none =>
      cases b? with
      | none => simp
      | some b => simp [optional, (shown b).symm]
  | some a =>
      cases b? with
      | none => simp [optional, shown a]
      | some b => simp [optional, same]

theorem optional_inj {α : Type} {dump : α → Json} (shown : ∀ part, dump part ≠ .null)
    (same : ∀ {a b}, dump a = dump b ↔ a = b) {a? b? : Option α} :
    optional dump a? = optional dump b? ↔ a? = b? := by
  have erased : optional dump a? = optional dump b? ↔ a?.map id = b?.map id :=
    optional_eq_iff shown same
  rwa [Option.map_id_fun, id, id] at erased

theorem map_eq_iff {α β : Type} {dump : α → Json} {erase : α → β}
    (same : ∀ {a b}, dump a = dump b ↔ erase a = erase b) {as bs : List α} :
    as.map dump = bs.map dump ↔ as.map erase = bs.map erase := by
  induction as generalizing bs with
  | nil => simp
  | cons a as ih =>
      cases bs with
      | nil => simp
      | cons b bs => simp only [List.map_cons, List.cons.injEq, same, ih]

end Json

/-! ## Words and names -/

theorem BinaryOp.name_inj {a b : BinaryOp} : a.name = b.name ↔ a = b := by
  cases a <;> cases b <;> simp [name]

theorem ExistenceCheck.dump_inj {a b : ExistenceCheck} : a.dump = b.dump ↔ a = b := by
  cases a <;> cases b <;> simp [dump, name]

theorem DropBehavior.dump_inj {a b : DropBehavior} : a.dump = b.dump ↔ a = b := by
  cases a <;> cases b <;> simp [dump, name]

theorem JoinType.dump_inj {a b : JoinType} : a.dump = b.dump ↔ a = b := by
  cases a <;> cases b <;> simp [dump, name]

theorem MatchType.dump_inj {a b : MatchType} : a.dump = b.dump ↔ a = b := by
  cases a <;> cases b <;> simp [dump, name]

theorem ReferentialAction.name_inj {a b : ReferentialAction} : a.name = b.name ↔ a = b := by
  cases a <;> cases b <;> simp [name]

theorem ConstraintType.name_inj {a b : ConstraintType} : a.name = b.name ↔ a = b := by
  cases a <;> cases b <;> simp [name]

theorem DataType.dump_inj {a b : DataType} : a.dump = b.dump ↔ a = b := by
  cases a <;> cases b <;> simp [dump, Json.tagged, name]

theorem Identifier.dump_inj {a b : Identifier} : a.dump = b.dump ↔ a = b := by
  cases a
  cases b
  simp [dump]

theorem Options.dump_inj {a b : Options} : a.dump = b.dump ↔ a = b := by
  cases a
  cases b
  have entry (p q : String × String) (same : (p.1, Json.string p.2) = (q.1, Json.string q.2)) :
      p = q := by
    simpa [Prod.ext_iff] using same
  rw [dump, dump, Json.object.injEq, List.map_inj_right entry, Options.mk.injEq]

theorem TableName.dump_eq_iff {a b : TableName} : a.dump = b.dump ↔ a.erase = b.erase := by
  have schemas : Json.optional Identifier.dump a.schema = Json.optional Identifier.dump b.schema ↔
      a.schema = b.schema := Json.optional_inj nofun Identifier.dump_inj
  simp [dump, erase_eq, schemas, Identifier.dump_inj]

theorem ColumnList.dump_eq_iff {a b : ColumnList} : a.dump = b.dump ↔ a.erase = b.erase := by
  have columns : a.columns.map Identifier.dump = b.columns.map Identifier.dump ↔
      a.columns = b.columns := List.map_inj_right fun _ _ => Identifier.dump_inj.mp
  simp [dump, erase_eq, columns]

/-- The tables that parts name are told from their dumps. -/
private theorem optional_tableName {a? b? : Option TableName} :
    Json.optional TableName.dump a? = Json.optional TableName.dump b? ↔
      a?.map TableName.erase = b?.map TableName.erase :=
  Json.optional_eq_iff nofun TableName.dump_eq_iff

/-! ## Expressions -/

theorem Expr.dump_eq_iff {a b : Expr} : a.dump = b.dump ↔ a.erase = b.erase := by
  induction a generalizing b with
  | column table name span =>
      cases b <;>
        simp [dump, Json.tagged_eq_iff, optional_tableName, Identifier.dump_inj]
  | number literal span => cases b <;> simp [dump, Json.tagged_eq_iff]
  | string value span => cases b <;> simp [dump, Json.tagged_eq_iff]
  | boolean value span => cases b <;> simp [dump, Json.tagged_eq_iff]
  | null span => cases b <;> simp [dump, Json.tagged_eq_iff]
  | binary op left right span ihLeft ihRight =>
      cases b <;> simp [dump, Json.tagged_eq_iff, BinaryOp.name_inj, ihLeft, ihRight]
  | not operand span ih => cases b <;> simp [dump, Json.tagged_eq_iff, ih]
  | isNull operand negated span ih => cases b <;> simp [dump, Json.tagged_eq_iff, ih]

theorem Expr.dump_ne_null (expr : Expr) : expr.dump ≠ .null := by
  cases expr <;> nofun

/-! ## Parts of statements -/

theorem IndexColumn.dump_eq_iff {a b : IndexColumn} : a.dump = b.dump ↔ a.erase = b.erase := by
  simp [dump, erase_eq, optional_tableName, Identifier.dump_inj]

theorem IndexColumnList.dump_eq_iff {a b : IndexColumnList} :
    a.dump = b.dump ↔ a.erase = b.erase := by
  simp [dump, erase_eq, Json.map_eq_iff IndexColumn.dump_eq_iff]

theorem StorageFormat.dump_eq_iff {a b : StorageFormat} : a.dump = b.dump ↔ a.erase = b.erase := by
  simp [dump, erase_eq, Identifier.dump_inj, Options.dump_inj]

private theorem optional_storageFormat {a? b? : Option StorageFormat} :
    Json.optional StorageFormat.dump a? = Json.optional StorageFormat.dump b? ↔
      a?.map StorageFormat.erase = b?.map StorageFormat.erase :=
  Json.optional_eq_iff nofun StorageFormat.dump_eq_iff

private theorem optional_joinType {a? b? : Option JoinType} :
    Json.optional JoinType.dump a? = Json.optional JoinType.dump b? ↔ a? = b? :=
  Json.optional_inj nofun JoinType.dump_inj

private theorem optional_behavior {a? b? : Option DropBehavior} :
    Json.optional DropBehavior.dump a? = Json.optional DropBehavior.dump b? ↔ a? = b? :=
  Json.optional_inj nofun DropBehavior.dump_inj

theorem ColumnDefinition.dump_eq_iff {a b : ColumnDefinition} :
    a.dump = b.dump ↔ a.erase = b.erase := by
  simp [dump, erase_eq, Identifier.dump_inj, DataType.dump_inj,
    Json.optional_eq_iff Expr.dump_ne_null Expr.dump_eq_iff]

theorem ForeignKey.dump_eq_iff {a b : ForeignKey} : a.dump = b.dump ↔ a.erase = b.erase := by
  have refColumns : Json.optional ColumnList.dump a.refColumns
      = Json.optional ColumnList.dump b.refColumns ↔
        a.refColumns.map ColumnList.erase = b.refColumns.map ColumnList.erase :=
    Json.optional_eq_iff nofun ColumnList.dump_eq_iff
  have matchType : Json.optional MatchType.dump a.matchType
      = Json.optional MatchType.dump b.matchType ↔ a.matchType = b.matchType :=
    Json.optional_inj nofun MatchType.dump_inj
  simp [dump, erase_eq, ColumnList.dump_eq_iff, TableName.dump_eq_iff, refColumns, matchType,
    ReferentialAction.name_inj]

theorem ConstraintDrop.dump_inj {a b : ConstraintDrop} : a.dump = b.dump ↔ a = b := by
  cases a
  cases b
  simp [dump, ConstraintType.name_inj, optional_behavior, ExistenceCheck.dump_inj]

theorem ConstraintBody.dump_eq_iff {a b : ConstraintBody} :
    a.dump = b.dump ↔ a.erase = b.erase := by
  cases a <;> cases b <;>
    simp [dump, Json.tagged_eq_iff, ColumnList.dump_eq_iff, Expr.dump_eq_iff,
      ForeignKey.dump_eq_iff, ConstraintDrop.dump_inj]

theorem Constraint.dump_eq_iff {a b : Constraint} : a.dump = b.dump ↔ a.erase = b.erase := by
  simp [dump, erase_eq, optional_tableName, ConstraintBody.dump_eq_iff]

theorem IndexConstraint.dump_eq_iff {a b : IndexConstraint} :
    a.dump = b.dump ↔ a.erase = b.erase := by
  simp [dump, erase_eq, IndexDefinition.erase_eq, Identifier.dump_inj, optional_joinType,
    IndexColumnList.dump_eq_iff, optional_storageFormat]

theorem TableElement.dump_eq_iff {a b : TableElement} : a.dump = b.dump ↔ a.erase = b.erase := by
  cases a <;> cases b <;>
    simp [dump, Json.tagged_eq_iff, ColumnDefinition.dump_eq_iff, Constraint.dump_eq_iff,
      IndexConstraint.dump_eq_iff]

theorem AlterAction.dump_eq_iff {a b : AlterAction} : a.dump = b.dump ↔ a.erase = b.erase := by
  cases a <;> cases b <;>
    simp [dump, Json.tagged_eq_iff, ColumnDefinition.dump_eq_iff, Constraint.dump_eq_iff,
      Identifier.dump_inj, ExistenceCheck.dump_inj]

/-! ## Statements and nodes -/

theorem CreateIndex.dump_eq_iff {a b : CreateIndex} : a.dump = b.dump ↔ a.erase = b.erase := by
  simp [dump, erase, IndexDefinition.erase_eq, TableName.dump_eq_iff, optional_joinType,
    Options.dump_inj, ExistenceCheck.dump_inj, IndexColumnList.dump_eq_iff, optional_storageFormat]
  -- the definition of the index stands together in the node and apart in the dump
  grind

theorem DropIndex.dump_eq_iff {a b : DropIndex} : a.dump = b.dump ↔ a.erase = b.erase := by
  simp [dump, erase, TableName.dump_eq_iff, ExistenceCheck.dump_inj]

theorem CreateTable.dump_eq_iff {a b : CreateTable} : a.dump = b.dump ↔ a.erase = b.erase := by
  simp [dump, erase, TableName.dump_eq_iff, ExistenceCheck.dump_inj,
    Json.map_eq_iff TableElement.dump_eq_iff, optional_storageFormat]

theorem DropTable.dump_eq_iff {a b : DropTable} : a.dump = b.dump ↔ a.erase = b.erase := by
  simp [dump, erase, TableName.dump_eq_iff, ExistenceCheck.dump_inj, optional_behavior]

theorem AlterTable.dump_eq_iff {a b : AlterTable} : a.dump = b.dump ↔ a.erase = b.erase := by
  simp [dump, erase, TableName.dump_eq_iff, Json.map_eq_iff AlterAction.dump_eq_iff]

theorem Statement.dump_eq_iff {a b : Statement} : a.dump = b.dump ↔ a.erase = b.erase := by
  cases a <;> cases b <;>
    simp [dump, Json.tagged_eq_iff, CreateIndex.dump_eq_iff, DropIndex.dump_eq_iff,
      CreateTable.dump_eq_iff, DropTable.dump_eq_iff, AlterTable.dump_eq_iff]

/-- The names under which statements are written. -/
private def statementTags : List String :=
  ["create_index", "drop_index", "create_table", "drop_table", "alter_table"]

/-- A statement is written under a name of its own, and so not as any other node. -/
private theorem Statement.dump_ne_tagged {statement : Statement} {tag : String} {value : Json}
    (other : tag ∉ statementTags) : statement.dump ≠ .tagged tag value := by
  intro same
  cases statement <;>
    exact other ((Json.tagged_eq_iff.mp same).1 ▸ by simp [statementTags])

private theorem Statement.tagged_ne_dump {statement : Statement} {tag : String} {value : Json}
    (other : tag ∉ statementTags) : .tagged tag value ≠ statement.dump :=
  (dump_ne_tagged other).symm

theorem Node.dump_eq_iff {a b : Node} : a.dump = b.dump ↔ a.erase = b.erase := by
  cases a <;> cases b <;>
    simp [dump, Json.tagged_eq_iff, TableName.dump_eq_iff, Expr.dump_eq_iff,
      ColumnList.dump_eq_iff, IndexColumn.dump_eq_iff, IndexColumnList.dump_eq_iff,
      StorageFormat.dump_eq_iff, ColumnDefinition.dump_eq_iff, Constraint.dump_eq_iff,
      IndexConstraint.dump_eq_iff, Statement.dump_eq_iff, Statement.dump_ne_tagged,
      Statement.tagged_ne_dump, statementTags]

/-- A dump keeps everything but positions: two nodes of any kinds have the same text exactly if they
    are equal without positions. -/
theorem toJson_eq_iff (a b : Node) : a.toJson = b.toJson ↔ a.erase = b.erase := by
  have text : a.toJson = b.toJson ↔ a.dump = b.dump :=
    ⟨Json.render_injective, congrArg Json.render⟩
  rw [text, Node.dump_eq_iff]

end DdlTree
