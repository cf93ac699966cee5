import DdlTree.Proofs.Erase
import DdlTree.Proofs.Outcome
import DdlTree.Render.Node

/-! # Renderings of relabelled trees

What a rendering takes from a tree besides its identifiers. If one style writes each identifier as
marked in the way in which another style writes the identifier itself, then the two render the tree
as marked and the tree alike, and positions do not matter to either.
-/

namespace DdlTree

/-- `marked` writes identifiers as marked in the way in which `style` writes them, and allows
    expressions of the same depth. -/
structure Style.Renders (marked : Style) (mark : Identifier → Identifier) (style : Style) :
    Prop where
  identifier : ∀ kind identifier,
    marked.identifier kind (mark identifier) = style.identifier kind identifier
  maxDepth : marked.maxDepth = style.maxDepth

theorem Expr.binding_relabel (mark : Identifier → Identifier) (expr : Expr) :
    (expr.relabel mark).binding = expr.binding := by
  cases expr <;> rfl

/-- A part that may be missing. -/
private theorem Style.optional_map {α : Type} {relabel : α → α}
    {write write' : α → Except RenderError String}
    (same : ∀ part, write' (relabel part) = write part) (part? : Option α) :
    Style.optional write' (part?.map relabel) = Style.optional write part? := by
  cases part? with
  | none => rfl
  | some part => simp only [Option.map_some, Style.optional, same]

namespace Style.Renders

variable {marked style : Style} {mark : Identifier → Identifier}
  (renders : marked.Renders mark style)

include renders

theorem tableName (table : TableName) :
    marked.tableName (table.relabel mark) = style.tableName table := by
  obtain ⟨schema, name, span⟩ := table
  cases schema <;>
    simp only [TableName.relabel, Style.tableName, Option.map_none, Option.map_some,
      renders.identifier]

theorem column (kind : NodeKind) (table : Option TableName) (column : Identifier) :
    marked.column kind (table.map (TableName.relabel mark)) (mark column)
      = style.column kind table column := by
  cases table <;>
    simp only [Style.column, Option.map_none, Option.map_some, renders.identifier,
      renders.tableName]

theorem exprAt (depth : Nat) (expr : Expr) :
    marked.exprAt depth (expr.relabel mark) = style.exprAt depth expr := by
  have checked (kind : NodeKind) (depth : Nat) :
      marked.checkDepth depth kind = style.checkDepth depth kind := by
    rw [checkDepth, checkDepth, renders.maxDepth]
  induction expr generalizing depth with
  | column table name span =>
      simp only [Expr.relabel, Style.exprAt, Expr.kind, checked, renders.column]
  | binary op left right span ihLeft ihRight =>
      simp only [Expr.relabel, Style.exprAt, Expr.kind, checked, ihLeft, ihRight,
        Expr.binding_relabel]
  | not operand span ih =>
      simp only [Expr.relabel, Style.exprAt, Expr.kind, checked, ih, Expr.binding_relabel]
  | isNull operand negated span ih =>
      simp only [Expr.relabel, Style.exprAt, Expr.kind, checked, ih, Expr.binding_relabel]
  | _ => simp only [Expr.relabel, Style.exprAt, Expr.kind, checked]

theorem expr (expr : Expr) : marked.expr (expr.relabel mark) = style.expr expr :=
  renders.exprAt 0 expr

theorem columnList (list : ColumnList) :
    marked.columnList (list.relabel mark) = style.columnList list := by
  simp only [Style.columnList, ColumnList.relabel, List.isEmpty_map,
    mapM_map_congr (renders.identifier .columnList)]

theorem keyColumns (list : ColumnList) :
    marked.keyColumns (list.relabel mark) = style.keyColumns list := by
  simp only [Style.keyColumns, renders.columnList]

theorem indexColumn (column : IndexColumn) :
    marked.indexColumn (column.relabel mark) = style.indexColumn column := by
  simp only [Style.indexColumn, IndexColumn.relabel, renders.column]

theorem indexColumnList (list : IndexColumnList) :
    marked.indexColumnList (list.relabel mark) = style.indexColumnList list := by
  simp only [Style.indexColumnList, IndexColumnList.relabel, List.isEmpty_map,
    mapM_map_congr renders.indexColumn]

theorem storageFormat (storage : StorageFormat) :
    marked.storageFormat (storage.relabel mark) = style.storageFormat storage := by
  simp only [Style.storageFormat, StorageFormat.relabel, renders.identifier]

theorem storageClause (storage : Option StorageFormat) :
    marked.storageClause (storage.map (StorageFormat.relabel mark))
      = style.storageClause storage := by
  simp only [Style.storageClause, optional_map renders.storageFormat]

theorem columnDefinition (column : ColumnDefinition) :
    marked.columnDefinition (column.relabel mark) = style.columnDefinition column := by
  simp only [Style.columnDefinition, ColumnDefinition.relabel, renders.identifier,
    optional_map renders.expr]

theorem foreignKey (key : ForeignKey) :
    marked.foreignKey (key.relabel mark) = style.foreignKey key := by
  simp only [Style.foreignKey, ForeignKey.relabel, renders.keyColumns, renders.tableName,
    optional_map renders.keyColumns]

theorem constraintDrop (name : Option TableName) (drop : ConstraintDrop) :
    marked.constraintDrop (name.map (TableName.relabel mark)) drop
      = style.constraintDrop name drop := by
  simp only [Style.constraintDrop, Option.isNone_map, optional_map renders.tableName]

theorem constraintName (name : Option TableName) :
    marked.constraintName (name.map (TableName.relabel mark)) = style.constraintName name := by
  simp only [Style.constraintName, optional_map renders.tableName]

theorem constraint (constraint : Constraint) :
    marked.constraint (constraint.relabel mark) = style.constraint constraint := by
  obtain ⟨name, body, span⟩ := constraint
  cases body <;>
    simp only [Constraint.relabel, ConstraintBody.relabel, Style.constraint,
      renders.constraintName, renders.keyColumns, renders.expr, renders.foreignKey,
      renders.constraintDrop]

theorem indexBody (index : IndexDefinition) :
    marked.indexBody (index.relabel mark) = style.indexBody index := by
  simp only [Style.indexBody, IndexDefinition.relabel, renders.indexColumnList]

/-- The storage format at the end of an index. -/
private theorem indexStorage (index : IndexDefinition) :
    marked.storageClause (index.relabel mark).storageFormat
      = style.storageClause index.storageFormat :=
  renders.storageClause index.storageFormat

theorem indexConstraint (constraint : IndexConstraint) :
    marked.indexConstraint (constraint.relabel mark) = style.indexConstraint constraint := by
  simp only [Style.indexConstraint, IndexConstraint.relabel, renders.identifier, renders.indexBody,
    renders.indexStorage]
  rfl

theorem tableElement (element : TableElement) :
    marked.tableElement (element.relabel mark) = style.tableElement element := by
  cases element with
  | column c => exact renders.columnDefinition c
  | constraint c => exact renders.constraint c
  | index i => exact renders.indexConstraint i

theorem alterAction (action : AlterAction) :
    marked.alterAction (action.relabel mark) = style.alterAction action := by
  cases action with
  | addConstraint c => simp only [AlterAction.relabel, Style.alterAction, renders.constraint]
  | dropConstraint c => simp only [AlterAction.relabel, Style.alterAction, renders.constraint]
  | addColumn c => simp only [AlterAction.relabel, Style.alterAction, renders.columnDefinition]
  | dropColumn c e => simp only [AlterAction.relabel, Style.alterAction, renders.identifier]

theorem statement (statement : Statement) :
    marked.statement (statement.relabel mark) = style.statement statement := by
  cases statement with
  | createIndex create =>
      simp only [Statement.relabel, Style.statement, Style.createIndex, renders.tableName,
        renders.indexBody, renders.indexStorage]
      rfl
  | dropIndex drop =>
      simp only [Statement.relabel, Style.statement, Style.dropIndex, renders.tableName]
  | createTable create =>
      simp only [Statement.relabel, Style.statement, Style.createTable, List.isEmpty_map,
        renders.tableName, mapM_map_congr renders.tableElement, renders.storageClause]
  | dropTable drop =>
      simp only [Statement.relabel, Style.statement, Style.dropTable, renders.tableName]
  | alterTable alter =>
      simp only [Statement.relabel, Style.statement, Style.alterTable, List.isEmpty_map,
        renders.tableName, mapM_map_congr renders.alterAction]

theorem render (node : Node) : marked.render (node.relabel mark) = style.render node := by
  cases node with
  | tableName name => exact renders.tableName name
  | expr e => exact renders.expr e
  | columnList columns => exact renders.columnList columns
  | indexColumn column => exact renders.indexColumn column
  | indexColumnList columns => exact renders.indexColumnList columns
  | storageFormat storage => exact renders.storageFormat storage
  | columnDefinition column => exact renders.columnDefinition column
  | constraint c => exact renders.constraint c
  | indexConstraint index => exact renders.indexConstraint index
  | statement s => exact renders.statement s

end Style.Renders

/-- A style writes identifiers as it marks them. -/
theorem Style.renders_mark (style : Style) : style.Renders style.mark style := by
  refine ⟨fun kind identifier => ?_, rfl⟩
  have quotes : style.needsQuotes (style.mark identifier) = style.needsQuotes identifier := by
    grind [mark, needsQuotes]
  have empty : (style.mark identifier).isEmpty = identifier.isEmpty := rfl
  rw [Style.identifier, Style.identifier, quotes, empty, mark]

/-- A rendering does not look at positions. -/
theorem Style.render_erase (style : Style) (node : Node) :
    style.render node.erase = style.render node := by
  have renders : style.Renders id style := ⟨fun _ _ => rfl, rfl⟩
  exact renders.render node

end DdlTree
