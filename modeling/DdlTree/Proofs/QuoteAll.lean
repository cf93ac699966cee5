import DdlTree.Proofs.RenderRelabel
import DdlTree.Proofs.UserText
import DdlTree.Proofs.Writer

/-! # Styles that delimit every identifier

A style can ask for every identifier to be delimited. This is the same as to render, without asking
for it, the tree in which every identifier is marked as delimited: identifiers are all that the
choice concerns, and no identifier of a node escapes it.
-/

namespace DdlTree

/-! ## Trees with other identifiers -/

section MapIdentifiers

variable (change : Identifier → Identifier)

def TableName.mapIdentifiers (table : TableName) : TableName :=
  { table with schema := table.schema.map change, name := change table.name }

def ColumnList.mapIdentifiers (list : ColumnList) : ColumnList :=
  { list with columns := list.columns.map change }

def Expr.mapIdentifiers : Expr → Expr
  | .column table name span =>
      .column (table.map (TableName.mapIdentifiers change)) (change name) span
  | .binary op left right span => .binary op left.mapIdentifiers right.mapIdentifiers span
  | .not operand span => .not operand.mapIdentifiers span
  | .isNull operand negated span => .isNull operand.mapIdentifiers negated span
  | constant => constant

def IndexColumn.mapIdentifiers (column : IndexColumn) : IndexColumn :=
  { column with
    table := column.table.map (TableName.mapIdentifiers change)
    column := change column.column }

def IndexColumnList.mapIdentifiers (list : IndexColumnList) : IndexColumnList :=
  { list with columns := list.columns.map (IndexColumn.mapIdentifiers change) }

def StorageFormat.mapIdentifiers (storage : StorageFormat) : StorageFormat :=
  { storage with format := change storage.format }

def IndexDefinition.mapIdentifiers (index : IndexDefinition) : IndexDefinition :=
  { index with
    columns := index.columns.mapIdentifiers change
    storageFormat := index.storageFormat.map (StorageFormat.mapIdentifiers change) }

def IndexConstraint.mapIdentifiers (constraint : IndexConstraint) : IndexConstraint :=
  { constraint with
    name := change constraint.name
    index := constraint.index.mapIdentifiers change }

def ColumnDefinition.mapIdentifiers (column : ColumnDefinition) : ColumnDefinition :=
  { column with
    name := change column.name
    defaultValue := column.defaultValue.map (Expr.mapIdentifiers change) }

def ForeignKey.mapIdentifiers (key : ForeignKey) : ForeignKey :=
  { key with
    columns := key.columns.mapIdentifiers change
    refTable := key.refTable.mapIdentifiers change
    refColumns := key.refColumns.map (ColumnList.mapIdentifiers change) }

def ConstraintBody.mapIdentifiers : ConstraintBody → ConstraintBody
  | .primaryKey columns => .primaryKey (columns.mapIdentifiers change)
  | .unique columns => .unique (columns.mapIdentifiers change)
  | .check condition => .check (condition.mapIdentifiers change)
  | .foreignKey key => .foreignKey (key.mapIdentifiers change)
  | .drop d => .drop d

def Constraint.mapIdentifiers (constraint : Constraint) : Constraint :=
  { constraint with
    name := constraint.name.map (TableName.mapIdentifiers change)
    body := constraint.body.mapIdentifiers change }

def TableElement.mapIdentifiers : TableElement → TableElement
  | .column c => .column (c.mapIdentifiers change)
  | .constraint c => .constraint (c.mapIdentifiers change)
  | .index i => .index (i.mapIdentifiers change)

def AlterAction.mapIdentifiers : AlterAction → AlterAction
  | .addConstraint constraint => .addConstraint (constraint.mapIdentifiers change)
  | .dropConstraint constraint => .dropConstraint (constraint.mapIdentifiers change)
  | .addColumn column => .addColumn (column.mapIdentifiers change)
  | .dropColumn column existence => .dropColumn (change column) existence

def Statement.mapIdentifiers : Statement → Statement
  | .createIndex create => .createIndex
      { create with
        name := create.name.mapIdentifiers change
        table := create.table.mapIdentifiers change
        index := create.index.mapIdentifiers change }
  | .dropIndex drop => .dropIndex { drop with name := drop.name.mapIdentifiers change }
  | .createTable create => .createTable
      { create with
        name := create.name.mapIdentifiers change
        elements := create.elements.map (TableElement.mapIdentifiers change)
        storageFormat := create.storageFormat.map (StorageFormat.mapIdentifiers change) }
  | .dropTable drop => .dropTable { drop with name := drop.name.mapIdentifiers change }
  | .alterTable alter => .alterTable
      { alter with
        name := alter.name.mapIdentifiers change
        actions := alter.actions.map (AlterAction.mapIdentifiers change) }

/-- The node with every identifier in its tree changed; everything else stays, positions too. -/
def Node.mapIdentifiers : Node → Node
  | .tableName name => .tableName (name.mapIdentifiers change)
  | .expr e => .expr (e.mapIdentifiers change)
  | .columnList columns => .columnList (columns.mapIdentifiers change)
  | .indexColumn column => .indexColumn (column.mapIdentifiers change)
  | .indexColumnList columns => .indexColumnList (columns.mapIdentifiers change)
  | .storageFormat storage => .storageFormat (storage.mapIdentifiers change)
  | .columnDefinition column => .columnDefinition (column.mapIdentifiers change)
  | .constraint c => .constraint (c.mapIdentifiers change)
  | .indexConstraint index => .indexConstraint (index.mapIdentifiers change)
  | .statement s => .statement (s.mapIdentifiers change)

end MapIdentifiers

/-- The identifier, marked as delimited. -/
def Identifier.delimit (identifier : Identifier) : Identifier :=
  { identifier with quoted := true }

/-! ## Changed trees without positions -/

section Erase

variable {change : Identifier → Identifier}

theorem TableName.erase_mapIdentifiers (table : TableName) :
    (table.mapIdentifiers change).erase = table.relabel change := by
  rw [erase_eq, mapIdentifiers, relabel]

theorem TableName.erase_map (table? : Option TableName) :
    (table?.map (mapIdentifiers change)).map erase = table?.map (relabel change) := by
  simp only [Option.map_map, Function.comp_def, erase_mapIdentifiers]

theorem ColumnList.erase_mapIdentifiers (list : ColumnList) :
    (list.mapIdentifiers change).erase = list.relabel change := by
  rw [erase_eq, mapIdentifiers, relabel]

theorem Expr.erase_mapIdentifiers (expr : Expr) :
    (expr.mapIdentifiers change).erase = expr.relabel change := by
  induction expr with
  | column table name span =>
      rw [mapIdentifiers, erase_column, TableName.erase_map, relabel]
  | binary op left right span ihLeft ihRight =>
      rw [mapIdentifiers, erase_binary, ihLeft, ihRight, relabel]
  | not operand span ih => rw [mapIdentifiers, erase_not, ih, relabel]
  | isNull operand negated span ih => rw [mapIdentifiers, erase_isNull, ih, relabel]
  | _ => rfl

theorem IndexColumn.erase_mapIdentifiers (column : IndexColumn) :
    (column.mapIdentifiers change).erase = column.relabel change := by
  rw [erase_eq, mapIdentifiers, TableName.erase_map, relabel]

theorem IndexColumnList.erase_mapIdentifiers (list : IndexColumnList) :
    (list.mapIdentifiers change).erase = list.relabel change := by
  simp only [erase_eq, mapIdentifiers, relabel, List.map_map, Function.comp_def,
    IndexColumn.erase_mapIdentifiers]

theorem StorageFormat.erase_map (storage? : Option StorageFormat) :
    (storage?.map (mapIdentifiers change)).map erase = storage?.map (relabel change) := by
  cases storage? <;> rfl

theorem IndexDefinition.erase_mapIdentifiers (index : IndexDefinition) :
    (index.mapIdentifiers change).erase = index.relabel change := by
  simp only [erase_eq, mapIdentifiers, relabel, IndexColumnList.erase_mapIdentifiers,
    StorageFormat.erase_map]

theorem IndexConstraint.erase_mapIdentifiers (constraint : IndexConstraint) :
    (constraint.mapIdentifiers change).erase = constraint.relabel change := by
  rw [erase_eq, mapIdentifiers, IndexDefinition.erase_mapIdentifiers, relabel]

theorem ColumnDefinition.erase_mapIdentifiers (column : ColumnDefinition) :
    (column.mapIdentifiers change).erase = column.relabel change := by
  simp only [erase_eq, mapIdentifiers, relabel, Option.map_map, Function.comp_def,
    Expr.erase_mapIdentifiers]

theorem ForeignKey.erase_mapIdentifiers (key : ForeignKey) :
    (key.mapIdentifiers change).erase = key.relabel change := by
  simp only [erase_eq, mapIdentifiers, relabel, Option.map_map, Function.comp_def,
    ColumnList.erase_mapIdentifiers, TableName.erase_mapIdentifiers]

theorem ConstraintBody.erase_mapIdentifiers (body : ConstraintBody) :
    (body.mapIdentifiers change).erase = body.relabel change := by
  cases body with
  | primaryKey columns | unique columns =>
      exact congrArg _ columns.erase_mapIdentifiers
  | check condition => exact congrArg _ condition.erase_mapIdentifiers
  | foreignKey key => exact congrArg _ key.erase_mapIdentifiers
  | drop d => rfl

theorem Constraint.erase_mapIdentifiers (constraint : Constraint) :
    (constraint.mapIdentifiers change).erase = constraint.relabel change := by
  rw [erase_eq, mapIdentifiers, TableName.erase_map, ConstraintBody.erase_mapIdentifiers, relabel]

theorem TableElement.erase_mapIdentifiers (element : TableElement) :
    (element.mapIdentifiers change).erase = element.relabel change := by
  cases element with
  | column c => exact congrArg _ c.erase_mapIdentifiers
  | constraint c => exact congrArg _ c.erase_mapIdentifiers
  | index i => exact congrArg _ i.erase_mapIdentifiers

theorem AlterAction.erase_mapIdentifiers (action : AlterAction) :
    (action.mapIdentifiers change).erase = action.relabel change := by
  cases action with
  | addConstraint c | dropConstraint c => exact congrArg _ c.erase_mapIdentifiers
  | addColumn c => exact congrArg _ c.erase_mapIdentifiers
  | dropColumn c e => rfl

theorem Statement.erase_mapIdentifiers (statement : Statement) :
    (statement.mapIdentifiers change).erase = statement.relabel change := by
  cases statement with
  | createIndex create =>
      simp only [mapIdentifiers, erase_createIndex, CreateIndex.erase, relabel,
        TableName.erase_mapIdentifiers, IndexDefinition.erase_mapIdentifiers]
  | dropIndex drop =>
      simp only [mapIdentifiers, erase_dropIndex, DropIndex.erase, relabel,
        TableName.erase_mapIdentifiers]
  | createTable create =>
      simp only [mapIdentifiers, erase_createTable, CreateTable.erase, relabel, List.map_map,
        Function.comp_def, TableName.erase_mapIdentifiers, TableElement.erase_mapIdentifiers,
        StorageFormat.erase_map]
  | dropTable drop =>
      simp only [mapIdentifiers, erase_dropTable, DropTable.erase, relabel,
        TableName.erase_mapIdentifiers]
  | alterTable alter =>
      simp only [mapIdentifiers, erase_alterTable, AlterTable.erase, relabel, List.map_map,
        Function.comp_def, TableName.erase_mapIdentifiers, AlterAction.erase_mapIdentifiers]

/-- Without positions a changed tree is the tree with its identifiers marked anew. -/
theorem Node.erase_mapIdentifiers (node : Node) :
    (node.mapIdentifiers change).erase = node.relabel change := by
  cases node with
  | tableName name => exact congrArg _ name.erase_mapIdentifiers
  | expr e => exact congrArg _ e.erase_mapIdentifiers
  | columnList columns => exact congrArg _ columns.erase_mapIdentifiers
  | indexColumn column => exact congrArg _ column.erase_mapIdentifiers
  | indexColumnList columns => exact congrArg _ columns.erase_mapIdentifiers
  | storageFormat storage => rfl
  | columnDefinition column => exact congrArg _ column.erase_mapIdentifiers
  | constraint c => exact congrArg _ c.erase_mapIdentifiers
  | indexConstraint index => exact congrArg _ index.erase_mapIdentifiers
  | statement s => exact congrArg _ s.erase_mapIdentifiers

end Erase

/-! ## The identifiers of a changed tree -/

section Identifiers

variable {change : Identifier → Identifier}

/-- Parts whose identifiers are changed one part after another. -/
theorem identifiers_map {α : Type} {part : α → α} {identifiers : α → List Identifier}
    (each : ∀ item, identifiers (part item) = (identifiers item).map change) (items : List α) :
    (items.map part).flatMap identifiers = (items.flatMap identifiers).map change := by
  rw [List.flatMap_map, List.map_flatMap]
  exact List.flatMap_congr fun item _ => each item

theorem identifiers_optional {α : Type} {part : α → α} {identifiers : α → List Identifier}
    (each : ∀ item, identifiers (part item) = (identifiers item).map change) (item? : Option α) :
    (item?.map part).toList.flatMap identifiers
      = (item?.toList.flatMap identifiers).map change := by
  rw [Option.toList_map, identifiers_map each]

theorem TableName.identifiers_mapIdentifiers (table : TableName) :
    (table.mapIdentifiers change).identifiers = table.identifiers.map change := by
  simp only [identifiers, mapIdentifiers, Option.toList_map, List.map_append, List.map_cons,
    List.map_nil]

theorem columnIdentifiers_mapIdentifiers (table : Option TableName) (column : Identifier) :
    columnIdentifiers (table.map (TableName.mapIdentifiers change)) (change column)
      = (columnIdentifiers table column).map change := by
  simp only [columnIdentifiers, identifiers_optional TableName.identifiers_mapIdentifiers,
    List.map_append, List.map_cons, List.map_nil]

theorem Expr.identifiers_mapIdentifiers (expr : Expr) :
    (expr.mapIdentifiers change).identifiers = expr.identifiers.map change := by
  induction expr with
  | column table name span => exact columnIdentifiers_mapIdentifiers table name
  | binary op left right span ihLeft ihRight =>
      simp only [mapIdentifiers, identifiers, ihLeft, ihRight, List.map_append]
  | not operand span ih | isNull operand negated span ih =>
      simp only [mapIdentifiers, identifiers, ih]
  | _ => rfl

theorem IndexColumn.identifiers_mapIdentifiers (column : IndexColumn) :
    (column.mapIdentifiers change).identifiers = column.identifiers.map change :=
  columnIdentifiers_mapIdentifiers column.table column.column

theorem IndexColumnList.identifiers_mapIdentifiers (list : IndexColumnList) :
    (list.mapIdentifiers change).identifiers = list.identifiers.map change :=
  identifiers_map IndexColumn.identifiers_mapIdentifiers list.columns

theorem StorageFormat.identifiers_mapIdentifiers (storage : StorageFormat) :
    (storage.mapIdentifiers change).identifiers = storage.identifiers.map change :=
  rfl

theorem IndexDefinition.identifiers_mapIdentifiers (index : IndexDefinition) :
    (index.mapIdentifiers change).identifiers = index.identifiers.map change := by
  simp only [identifiers, mapIdentifiers, IndexColumnList.identifiers_mapIdentifiers,
    identifiers_optional StorageFormat.identifiers_mapIdentifiers, List.map_append]

theorem IndexConstraint.identifiers_mapIdentifiers (constraint : IndexConstraint) :
    (constraint.mapIdentifiers change).identifiers = constraint.identifiers.map change :=
  congrArg (change constraint.name :: ·) constraint.index.identifiers_mapIdentifiers

theorem ColumnDefinition.identifiers_mapIdentifiers (column : ColumnDefinition) :
    (column.mapIdentifiers change).identifiers = column.identifiers.map change :=
  congrArg (change column.name :: ·)
    (identifiers_optional Expr.identifiers_mapIdentifiers column.defaultValue)

theorem ForeignKey.identifiers_mapIdentifiers (key : ForeignKey) :
    (key.mapIdentifiers change).identifiers = key.identifiers.map change := by
  have columns (list : ColumnList) :
      (list.mapIdentifiers change).columns = list.columns.map change := rfl
  simp only [identifiers, mapIdentifiers, columns, TableName.identifiers_mapIdentifiers,
    identifiers_optional columns, List.map_append]

theorem Constraint.identifiers_mapIdentifiers (constraint : Constraint) :
    (constraint.mapIdentifiers change).identifiers = constraint.identifiers.map change := by
  have body : (constraint.body.mapIdentifiers change).identifiers
      = constraint.body.identifiers.map change := by
    cases constraint.body with
    | check condition => exact condition.identifiers_mapIdentifiers
    | foreignKey key => exact key.identifiers_mapIdentifiers
    | primaryKey | unique | drop => rfl
  simp only [identifiers, mapIdentifiers, body,
    identifiers_optional TableName.identifiers_mapIdentifiers, List.map_append]

theorem TableElement.identifiers_mapIdentifiers (element : TableElement) :
    (element.mapIdentifiers change).identifiers = element.identifiers.map change := by
  cases element with
  | column c => exact c.identifiers_mapIdentifiers
  | constraint c => exact c.identifiers_mapIdentifiers
  | index i => exact i.identifiers_mapIdentifiers

theorem AlterAction.identifiers_mapIdentifiers (action : AlterAction) :
    (action.mapIdentifiers change).identifiers = action.identifiers.map change := by
  cases action with
  | addConstraint c | dropConstraint c => exact c.identifiers_mapIdentifiers
  | addColumn c => exact c.identifiers_mapIdentifiers
  | dropColumn c e => rfl

theorem Statement.identifiers_mapIdentifiers (statement : Statement) :
    (statement.mapIdentifiers change).identifiers = statement.identifiers.map change := by
  cases statement with
  | createIndex create =>
      simp only [mapIdentifiers, identifiers, TableName.identifiers_mapIdentifiers,
        IndexDefinition.identifiers_mapIdentifiers, List.map_append]
  | createTable create =>
      simp only [mapIdentifiers, identifiers, TableName.identifiers_mapIdentifiers,
        identifiers_map TableElement.identifiers_mapIdentifiers,
        identifiers_optional StorageFormat.identifiers_mapIdentifiers, List.map_append]
  | alterTable alter =>
      simp only [mapIdentifiers, identifiers, TableName.identifiers_mapIdentifiers,
        identifiers_map AlterAction.identifiers_mapIdentifiers, List.map_append]
  | dropIndex drop | dropTable drop => exact drop.name.identifiers_mapIdentifiers

/-- The identifiers of a changed tree are the identifiers of the tree, changed one by one. -/
theorem Node.identifiers_mapIdentifiers (node : Node) :
    (node.mapIdentifiers change).identifiers = node.identifiers.map change := by
  cases node with
  | tableName name => exact name.identifiers_mapIdentifiers
  | expr e => exact e.identifiers_mapIdentifiers
  | indexColumn column => exact column.identifiers_mapIdentifiers
  | indexColumnList columns => exact columns.identifiers_mapIdentifiers
  | columnDefinition column => exact column.identifiers_mapIdentifiers
  | constraint c => exact c.identifiers_mapIdentifiers
  | indexConstraint index => exact index.identifiers_mapIdentifiers
  | statement s => exact s.identifiers_mapIdentifiers
  | columnList | storageFormat => rfl

end Identifiers

/-! ## Renderings -/

/-- A style that delimits all identifiers writes each of them as the style without this choice
    writes it once it is marked as delimited. -/
theorem Style.renders_delimit (style : Style) :
    { style with quoteAll := false : Style }.Renders Identifier.delimit
      { style with quoteAll := true : Style } := by
  refine ⟨fun kind identifier => ?_, rfl⟩
  have quoted : { style with quoteAll := false : Style }.needsQuotes identifier.delimit
      = { style with quoteAll := true : Style }.needsQuotes identifier := by
    simp [needsQuotes, Identifier.delimit]
  have empty : identifier.delimit.isEmpty = identifier.isEmpty := rfl
  rw [Style.identifier, Style.identifier, quoted, empty, Identifier.delimit]

/-- To delimit every identifier changes the quoting and nothing else. Whatever a writer has in its
    buffer, with this choice it gives for a node the text or the error that a writer of the same
    style without it gives for the tree in which every identifier, and nothing but the identifiers,
    is marked as delimited. -/
theorem quoteAll_renders_marked (style : Style) (quoting plain : Writer) (node : Node) :
    let marked := node.mapIdentifiers Identifier.delimit
    marked.identifiers = node.identifiers.map Identifier.delimit ∧
      (Writer.generate { quoting with style := { style with quoteAll := true } } node).1
        = (Writer.generate { plain with style := { style with quoteAll := false } } marked).1 := by
  intro marked
  refine ⟨node.identifiers_mapIdentifiers, ?_⟩
  rw [Writer.generate_eq, Writer.generate_eq]
  calc { style with quoteAll := true : Style }.render node
      = { style with quoteAll := false : Style }.render (node.relabel Identifier.delimit) :=
        (style.renders_delimit.render node).symm
    _ = { style with quoteAll := false : Style }.render marked.erase := by
        rw [Node.erase_mapIdentifiers]
    _ = { style with quoteAll := false : Style }.render marked := Style.render_erase _ marked

end DdlTree
