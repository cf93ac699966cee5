import DdlTree.Outline
import DdlTree.Proofs.Dump
import DdlTree.Proofs.EraseCopy
import DdlTree.Proofs.EraseProduction
import DdlTree.Proofs.RenderRelabel
import DdlTree.Proofs.Tree

/-! # Positions do not matter

Positions travel with nodes and decide nothing: not what is built, rendered, dumped, outlined or
copied, and not what is refused. Each of these does the same to a node and to the node without
positions; two nodes that differ in positions only are one node without them.
-/

namespace DdlTree

/-! ## Children -/

theorem Expr.children_erase (expr : Expr) :
    expr.erase.children = expr.children.map Node.erase := by
  cases expr with
  | column table name span => cases table <;> rfl
  | _ => rfl

theorem ConstraintBody.children_erase (body : ConstraintBody) :
    body.erase.children = body.children.map Node.erase := by
  cases body with
  | foreignKey key =>
      simp only [erase_foreignKey, children, ForeignKey.erase_eq]
      cases key.refColumns <;> rfl
  | _ => rfl

theorem IndexDefinition.children_erase (index : IndexDefinition) :
    index.erase.children = index.children.map Node.erase := by
  simp only [children, erase_eq]
  cases index.storageFormat <;> rfl

theorem TableElement.node_erase (element : TableElement) :
    element.erase.node = element.node.erase := by
  cases element <;> rfl

theorem AlterAction.node?_erase (action : AlterAction) :
    action.erase.node? = action.node?.map Node.erase := by
  cases action <;> rfl

theorem Statement.children_erase (statement : Statement) :
    statement.erase.children = statement.children.map Node.erase := by
  cases statement with
  | createIndex create =>
      simp only [erase_createIndex, children, CreateIndex.erase, IndexDefinition.children_erase,
        List.map_cons, Node.erase_tableName]
  | createTable create =>
      have elements : (create.elements.map TableElement.erase).map TableElement.node
          = (create.elements.map TableElement.node).map Node.erase := by
        simp only [List.map_map, Function.comp_def, TableElement.node_erase]
      simp only [erase_createTable, children, CreateTable.erase, elements, List.map_cons,
        List.map_append, Node.erase_tableName]
      cases create.storageFormat <;> rfl
  | alterTable alter =>
      simp only [erase_alterTable, children, AlterTable.erase, List.map_cons, List.filterMap_map,
        Function.comp_def, AlterAction.node?_erase, List.map_filterMap, Node.erase_tableName]
  | dropIndex drop | dropTable drop => rfl

theorem Node.children_erase (node : Node) :
    node.erase.children = node.children.map Node.erase := by
  cases node with
  | tableName | columnList | storageFormat => rfl
  | expr e => exact e.children_erase
  | indexColumn column =>
      simp only [erase_indexColumn, children, IndexColumn.erase_eq]
      cases column.table <;> rfl
  | indexColumnList columns =>
      simp only [erase_indexColumnList, children, IndexColumnList.erase_eq, List.map_map,
        Function.comp_def, erase_indexColumn]
  | columnDefinition column =>
      simp only [erase_columnDefinition, children, ColumnDefinition.erase_eq]
      cases column.defaultValue <;> rfl
  | constraint c =>
      simp only [erase_constraint, children, Constraint.erase_eq, List.map_append,
        ConstraintBody.children_erase]
      cases c.name <;> rfl
  | indexConstraint index => exact index.index.children_erase
  | statement s => exact s.children_erase

/-! ## Outlines -/

theorem AlterAction.droppedColumn?_erase (action : AlterAction) :
    action.erase.droppedColumn? = action.droppedColumn? := by
  cases action <;> rfl

theorem Constraint.fields_erase (constraint : Constraint) :
    constraint.erase.fields = constraint.fields := by
  obtain ⟨name, body, span⟩ := constraint
  cases body <;> rfl

theorem Statement.fields_erase (statement : Statement) :
    statement.erase.fields = statement.fields := by
  cases statement with
  | alterTable alter =>
      simp only [erase_alterTable, fields, AlterTable.erase, List.filterMap_map, Function.comp_def,
        AlterAction.droppedColumn?_erase]
  | _ => rfl

theorem Node.fields_erase (node : Node) : node.erase.fields = node.fields := by
  cases node with
  | tableName name => rw [erase_tableName, fields, fields, TableName.erase_eq]; rfl
  | expr e => cases e <;> rfl
  | columnList columns => rw [erase_columnList, fields, fields, ColumnList.erase_eq]
  | constraint c => exact c.fields_erase
  | statement s => exact s.fields_erase
  | indexColumn | indexColumnList | storageFormat | columnDefinition | indexConstraint => rfl

theorem Node.leveled_eq (level : Nat) (node : Node) :
    node.leveled level = (level, node) :: node.children.flatMap (leveled (level + 1)) := by
  rw [leveled]
  simp only [List.flatMap_subtype, List.unattach_attach]

theorem Node.leveled_erase (level : Nat) (node : Node) :
    node.erase.leveled level = (node.leveled level).map (Prod.map id erase) := by
  have below : ∀ child ∈ node.children, child.erase.leveled (level + 1)
      = (child.leveled (level + 1)).map (Prod.map id erase) :=
    fun child _ => child.leveled_erase (level + 1)
  rw [leveled_eq, leveled_eq, children_erase, List.map_cons, List.flatMap_map, List.map_flatMap]
  exact congrArg _ (List.flatMap_congr below)
termination_by node.size
decreasing_by exact size_lt_of_mem_children ‹_›

theorem Node.outline_erase (node : Node) : node.erase.outline = node.outline := by
  have line (entry : Nat × Node) : outlineLine entry.1 entry.2.erase
      = outlineLine entry.1 entry.2 := by
    rw [outlineLine, outlineLine, kind_erase, fields_erase]
  rw [outline, outline, leveled_erase, List.map_map]
  exact congrArg String.join (List.map_congr_left fun entry _ => line entry)

/-! ## Two nodes that differ in positions -/

/-- Both are nodes, equal without positions, or both are the same error. -/
def SameButPositions {ε : Type} : Except ε Node → Except ε Node → Prop
  | .ok a, .ok b => a.erase = b.erase
  | .error e, .error f => e = f
  | _, _ => False

theorem SameButPositions.of_map_eq {ε : Type} {first second : Except ε Node}
    (same : first.map Node.erase = second.map Node.erase) : SameButPositions first second := by
  cases first with
  | ok a =>
      cases second with
      | ok b => exact Except.ok.inj same
      | error f => cases same
  | error e =>
      cases second with
      | ok b => cases same
      | error f => exact Except.error.inj same

/-- Positions influence nothing. Arguments whose nodes differ in positions only are refused with the
    same error, or make nodes that differ in positions only; and two such nodes have the same text
    in every style, the same dump and the same outline, and in every session the same error or
    copies that differ in positions only. -/
theorem positions_immaterial :
    (∀ (session : Session) (kind : NodeKind) (arguments arguments' : List Argument),
      arguments.map Argument.erase = arguments'.map Argument.erase →
        SameButPositions (Production.build session kind arguments)
          (Production.build session kind arguments')) ∧
    (∀ a b : Node, a.erase = b.erase →
      (∀ style : Style, style.render a = style.render b) ∧
      a.toJson = b.toJson ∧
      a.outline = b.outline ∧
      (∀ session : Session, SameButPositions (session.copy a) (session.copy b))) := by
  constructor
  · intro session kind arguments arguments' same
    apply SameButPositions.of_map_eq
    calc (Production.build session kind arguments).map Node.erase
        = Production.build session kind (arguments.map Argument.erase) :=
          (Production.build_erase session kind arguments).symm
      _ = Production.build session kind (arguments'.map Argument.erase) := by rw [same]
      _ = (Production.build session kind arguments').map Node.erase :=
          Production.build_erase session kind arguments'
  · intro a b same
    refine ⟨fun style => ?_, ?_, ?_, fun session => SameButPositions.of_map_eq ?_⟩
    · rw [← style.render_erase a, same, style.render_erase]
    · exact congrArg Json.render (Node.dump_eq_iff.mpr same)
    · rw [← a.outline_erase, same, b.outline_erase]
    · rw [← session.copy_erase, same, session.copy_erase]

/-- The same column of the same table, read at two places. -/
theorem positions_immaterial_column :
    let table (span : Span) : TableName := { schema := none, name := .regular "t", span }
    let column (span : Span) : Node := .expr (.column (some (table span)) (.regular "a") span)
    column ⟨7, 10⟩ ≠ column ⟨40, 43⟩ ∧
      SameButPositions
        (Production.build {} .columnReference [.node (.tableName (table ⟨7, 8⟩)), .text "a"])
        (Production.build {} .columnReference [.node (.tableName (table ⟨40, 41⟩)), .text "a"]) ∧
      (column ⟨7, 10⟩).outline = (column ⟨40, 43⟩).outline := by
  intro table column
  have sameColumns : (column ⟨7, 10⟩).erase = (column ⟨40, 43⟩).erase := rfl
  refine ⟨by decide, ?_, (positions_immaterial.2 _ _ sameColumns).2.2.1⟩
  exact positions_immaterial.1 {} .columnReference _ _ rfl

end DdlTree
