import DdlTree.Proofs.Frame

/-! # Rendered children

The text of a node is the texts of its children, in the order of the children, with a frame around
them. The frame does not depend on the children, but for the parentheses around the operands of an
expression.
-/

namespace DdlTree

/-! ## Other children -/

/-- The same constraint with other children. -/
inductive ConstraintBody.Refit : ConstraintBody → ConstraintBody → Prop
  | primaryKey {columns : ColumnList} (others : ColumnList) :
      Refit (.primaryKey columns) (.primaryKey others)
  | unique {columns : ColumnList} (others : ColumnList) : Refit (.unique columns) (.unique others)
  | check {condition : Expr} (other : Expr) : Refit (.check condition) (.check other)
  | foreignKey {key : ForeignKey} (columns : ColumnList) (refTable : TableName)
      {refColumns : Option ColumnList} (same : refColumns.isSome = key.refColumns.isSome) :
      Refit (.foreignKey key) (.foreignKey { key with columns, refTable, refColumns })
  | drop (drop : ConstraintDrop) : Refit (.drop drop) (.drop drop)

/-- The same change with another child. -/
inductive AlterAction.Refit : AlterAction → AlterAction → Prop
  | addConstraint {constraint : Constraint} (other : Constraint) :
      Refit (.addConstraint constraint) (.addConstraint other)
  | dropConstraint {constraint : Constraint} (other : Constraint) :
      Refit (.dropConstraint constraint) (.dropConstraint other)
  | addColumn {column : ColumnDefinition} (other : ColumnDefinition) :
      Refit (.addColumn column) (.addColumn other)
  | dropColumn (column : Identifier) (existence : ExistenceCheck) :
      Refit (.dropColumn column existence) (.dropColumn column existence)

/-- The same index with other children. -/
inductive IndexDefinition.Refit : IndexDefinition → IndexDefinition → Prop
  | mk {index : IndexDefinition} (columns : IndexColumnList) {storageFormat : Option StorageFormat}
      (same : storageFormat.isSome = index.storageFormat.isSome) :
      Refit index { index with columns, storageFormat }

/-- The same node with other children: there are as many of them, an optional child is there or
    missing as before, and all else that the node holds is left as it is. -/
inductive Node.Refit : Node → Node → Prop
  | leaf {node : Node} (bare : node.children = []) : Refit node node
  | column {table other : Option TableName} {name : Identifier} {span : Span}
      (same : other.isSome = table.isSome) :
      Refit (.expr (.column table name span)) (.expr (.column other name span))
  | binary {op : BinaryOp} {left right : Expr} {span : Span} (left' right' : Expr) :
      Refit (.expr (.binary op left right span)) (.expr (.binary op left' right' span))
  | not {operand : Expr} {span : Span} (other : Expr) :
      Refit (.expr (.not operand span)) (.expr (.not other span))
  | isNull {operand : Expr} {negated : Bool} {span : Span} (other : Expr) :
      Refit (.expr (.isNull operand negated span)) (.expr (.isNull other negated span))
  | indexColumn {column : IndexColumn} {table : Option TableName}
      (same : table.isSome = column.table.isSome) :
      Refit (.indexColumn column) (.indexColumn { column with table })
  | indexColumnList {list : IndexColumnList} {columns : List IndexColumn}
      (same : columns.length = list.columns.length) :
      Refit (.indexColumnList list) (.indexColumnList { list with columns })
  | columnDefinition {column : ColumnDefinition} {defaultValue : Option Expr}
      (same : defaultValue.isSome = column.defaultValue.isSome) :
      Refit (.columnDefinition column) (.columnDefinition { column with defaultValue })
  | constraint {c : Constraint} {name : Option TableName} {body : ConstraintBody}
      (same : name.isSome = c.name.isSome) (inside : c.body.Refit body) :
      Refit (.constraint c) (.constraint { c with name, body })
  | indexConstraint {constraint : IndexConstraint} {index : IndexDefinition}
      (inside : constraint.index.Refit index) :
      Refit (.indexConstraint constraint) (.indexConstraint { constraint with index })
  | createIndex {create : CreateIndex} (name table : TableName) {index : IndexDefinition}
      (inside : create.index.Refit index) :
      Refit (.statement (.createIndex create))
        (.statement (.createIndex { create with name, table, index }))
  | dropIndex {drop : DropIndex} (name : TableName) :
      Refit (.statement (.dropIndex drop)) (.statement (.dropIndex { drop with name }))
  | createTable {create : CreateTable} (name : TableName) {elements : List TableElement}
      {storageFormat : Option StorageFormat} (many : elements.length = create.elements.length)
      (same : storageFormat.isSome = create.storageFormat.isSome) :
      Refit (.statement (.createTable create))
        (.statement (.createTable { create with name, elements, storageFormat }))
  | dropTable {drop : DropTable} (name : TableName) :
      Refit (.statement (.dropTable drop)) (.statement (.dropTable { drop with name }))
  | alterTable {alter : AlterTable} (name : TableName) {actions : List AlterAction}
      (inside : List.Forall₂ AlterAction.Refit alter.actions actions) :
      Refit (.statement (.alterTable alter)) (.statement (.alterTable { alter with name, actions }))

/-- Which operands of an expression stand in parentheses. -/
def Node.groups : Node → List Bool
  | .expr (.binary op left right _) =>
      [decide (left.binding < op.precedence), decide (right.binding ≤ op.precedence)]
  | .expr (.not operand _) => [decide (operand.binding < notPrecedence)]
  | .expr (.isNull operand _ _) => [decide (operand.binding ≤ isNullPrecedence)]
  | _ => []

/-! ## The frames of nodes -/

/-- A place in parentheses. -/
def Frame.enclosed : Frame :=
  .last "(" ++ .place ++ .last ")"

/-- A place for an operand. -/
def Frame.operand (grouped : Bool) : Frame :=
  if grouped then .enclosed else .place

namespace Style

def columnFrame (style : Style) (kind : NodeKind) (table : Option TableName)
    (column : Identifier) : Except RenderError Frame := do
  return .optional "" "." table ++ .last (← style.identifier kind column)

def exprFrame (style : Style) : Expr → Except RenderError Frame
  | .column table name _ => style.columnFrame .columnReference table name
  | .binary op left right _ =>
      return .operand (left.binding < op.precedence) ++ .last (" " ++ op.symbol ++ " ")
        ++ .operand (right.binding ≤ op.precedence)
  | .not operand _ => return .last "NOT " ++ .operand (operand.binding < notPrecedence)
  | .isNull operand negated _ =>
      return .operand (operand.binding ≤ isNullPrecedence)
        ++ .last (if negated then " IS NOT NULL" else " IS NULL")
  | constant => do return .last (← style.expr constant)

/-- A storage format at the end of a definition. -/
def storageFrame (storage : Option StorageFormat) : Frame :=
  .optional " " "" storage

/-- The columns and the join of an index. -/
def indexFrame (index : IndexDefinition) : Frame :=
  .enclosed ++ .last (joinClause index.joinType)

def foreignKeyFrame (key : ForeignKey) : Frame :=
  .last (wordIf key.grouping "GROUPING " ++ "FOREIGN KEY ") ++ .enclosed ++ .last " REFERENCES "
    ++ .place ++ .optional " (" ")" key.refColumns
    ++ .last (trailing (key.matchType.map ("MATCH " ++ ·.keyword))
      ++ " ON DELETE " ++ key.deleteRule.keyword ++ " ON UPDATE " ++ key.updateRule.keyword
      ++ wordIf key.deferrable
        (" DEFERRABLE" ++ wordIf key.initiallyDeferred " INITIALLY DEFERRED"))

def constraintFrame (name : Option TableName) : ConstraintBody → Except RenderError Frame
  | .primaryKey _ =>
      return .optional "CONSTRAINT " " " name ++ .last "PRIMARY KEY " ++ .enclosed
  | .unique _ => return .optional "CONSTRAINT " " " name ++ .last "UNIQUE " ++ .enclosed
  | .check _ => return .optional "CONSTRAINT " " " name ++ .last "CHECK (" ++ .place ++ .last ")"
  | .foreignKey key => return .optional "CONSTRAINT " " " name ++ foreignKeyFrame key
  | .drop drop => do
      if name.isNone && drop.constraintType != .primaryKey then
        .error ⟨.constraintDefinition, .unnamedDrop⟩
      return .last ("DROP " ++ wordIf drop.grouping "GROUPING " ++ drop.constraintType.keyword
          ++ trailing drop.existence.keyword?)
        ++ .optional " " "" name ++ .last (trailing (drop.behavior.map (·.keyword)))

/-- A change to a table. A dropped column is no child. -/
def actionFrame (style : Style) : AlterAction → Except RenderError Frame
  | .addConstraint _ => return .last "ADD " ++ .place
  | .dropConstraint _ => return .place
  | .addColumn _ => return .last "ADD COLUMN " ++ .place
  | .dropColumn column existence => do
      return .last ("DROP COLUMN " ++ leading existence.keyword?
        ++ (← style.identifier .alterTable column))

def statementFrame (style : Style) : Statement → Except RenderError Frame
  | .createIndex create => do
      let clause ← optionClause .createIndex " WITH " create.options
      return .last ("CREATE " ++ wordIf create.index.unique "UNIQUE " ++ "INDEX "
          ++ leading create.existence.keyword?)
        ++ .place ++ .last " ON " ++ .place ++ .last " " ++ indexFrame create.index ++ .last clause
        ++ storageFrame create.index.storageFormat
  | .dropIndex drop => return .last ("DROP INDEX " ++ leading drop.existence.keyword?) ++ .place
  | .createTable create => do
      if create.elements.isEmpty then .error ⟨.createTable, .noTableElements⟩
      return .last ("CREATE TABLE " ++ leading create.existence.keyword?) ++ .place ++ .last " ("
        ++ .separated (create.elements.map fun _ => .place) ++ .last ")"
        ++ storageFrame create.storageFormat
  | .dropTable drop =>
      return .last ("DROP TABLE " ++ leading drop.existence.keyword?) ++ .place
        ++ .last (trailing (drop.behavior.map (·.keyword)))
  | .alterTable alter => do
      if alter.actions.isEmpty then .error ⟨.alterTable, .noActions⟩
      let actions ← alter.actions.mapM style.actionFrame
      return .last "ALTER TABLE " ++ .place ++ .last " " ++ .separated actions

/-- What a node writes around the texts of its children. -/
def frame (style : Style) : Node → Except RenderError Frame
  | .expr e => style.exprFrame e
  | .indexColumn column => do
      return (← style.columnFrame .indexColumn column.table column.column)
        ++ .last (wordIf (!column.ascending) " DESC")
  | .indexColumnList list => do
      if list.columns.isEmpty then .error ⟨.indexColumnList, .noIndexColumns⟩
      return .separated (list.columns.map fun _ => .place)
  | .columnDefinition column => do
      let name ← style.identifier .columnDefinition column.name
      return .last (name ++ " " ++ column.dataType.text)
        ++ .optional " DEFAULT " "" column.defaultValue ++ .last (wordIf column.notNull " NOT NULL")
  | .constraint c => constraintFrame c.name c.body
  | .indexConstraint constraint => do
      let name ← style.identifier .indexConstraint constraint.name
      return .last (wordIf constraint.index.unique "UNIQUE " ++ "INDEX " ++ name ++ " ")
        ++ indexFrame constraint.index ++ storageFrame constraint.index.storageFormat
  | .statement s => style.statementFrame s
  | leaf => do return .last (← style.render leaf)

/-! ## Nodes are composed -/

section Composed

variable (style : Style)

/-- An optional child with text around it. -/
theorem composes_optional {α : Type} {wrap : α → Node} {write : α → Except RenderError String}
    {around : Option String → String} {before after : String}
    (renders : ∀ part, style.render (wrap part) = write part) (nothing : around none = "")
    (something : ∀ text, around (some text) = before ++ text ++ after) (part? : Option α) :
    style.Composes (part?.toList.map wrap) (pure (.optional before after part?))
      (do return around (← optional write part?)) := by
  cases part? with
  | none =>
      have missing : style.Composes [] (pure (.last "")) (pure (around none)) := by
        rw [nothing]
        exact .word style ""
      exact missing
  | some part =>
      have placed := ((Composes.child style (wrap part)).preceded before).followed after
      simpa only [optional, bind_map, something, renders, Frame.optional, Frame.place,
        Frame.last_append, Frame.child_append, Frame.precede, bind_assoc, pure_bind,
        String.append_empty, String.empty_append, List.nil_append, List.append_nil,
        Option.toList_some, List.map_cons, List.map_nil] using placed

theorem composes_column (kind : NodeKind) (table : Option TableName) (column : Identifier) :
    style.Composes (table.toList.map .tableName) (style.columnFrame kind table column)
      (style.column kind table column) := by
  have name := Composes.own style (style.identifier kind column)
  cases table with
  | none =>
      simpa only [columnFrame, Style.column, Frame.optional, Frame.last_append, Frame.precede,
        String.empty_append, Option.toList_none, List.map_nil] using name
  | some table =>
      have dotted := (Composes.child style (.tableName table)).andThen (name.preceded ".")
      simpa only [columnFrame, Style.column, Frame.optional, Frame.place, Frame.last_append,
        Frame.child_append, Frame.precede, bind_assoc, pure_bind, String.empty_append,
        String.append_empty, String.append_assoc, render, Option.toList_some, List.map_cons,
        List.map_nil, List.append_nil] using dotted

theorem composes_operand (grouped : Bool) (e : Expr) :
    style.Composes [.expr e] (pure (.operand grouped))
      (do return parenthesize grouped (← style.expr e)) := by
  have operand : style.Composes [.expr e] _ (style.expr e) := .child style (.expr e)
  cases grouped with
  | false =>
      simpa only [Frame.operand, parenthesize, Bool.false_eq_true, ↓reduceIte, bind_pure] using
        operand
  | true =>
      simpa only [Frame.operand, Frame.enclosed, parenthesize, ↓reduceIte, bind_assoc, pure_bind]
        using (operand.preceded "(").followed ")"

/-- Without a limit it does not matter what an expression stands in. -/
theorem exprAt_unlimited (unlimited : style.maxDepth = none) (e : Expr) (depth : Nat) :
    style.exprAt depth e = style.expr e := by
  rw [expr]
  induction e generalizing depth with
  | binary op left right span ihLeft ihRight =>
      rw [exprAt, exprAt, ihLeft, ihRight, ihLeft (0 + 1), ihRight (0 + 1)]
      simp only [checkDepth_unlimited unlimited]
  | not operand span ih | isNull operand negated span ih =>
      rw [exprAt, exprAt, ih, ih (0 + 1)]
      simp only [checkDepth_unlimited unlimited]
  | _ =>
      rw [exprAt, exprAt]
      simp only [checkDepth_unlimited unlimited]

theorem composes_expr (unlimited : style.maxDepth = none) (e : Expr) :
    style.Composes e.children (style.exprFrame e) (style.expr e) := by
  cases e with
  | column table name span =>
      rw [expr, exprAt, checkDepth_unlimited unlimited]
      exact composes_column style .columnReference table name
  | number | string | boolean | null => exact .own style _
  | binary op left right span =>
      have joined := (composes_operand style (left.binding < op.precedence) left).andThen
        ((composes_operand style (right.binding ≤ op.precedence) right).preceded
          (" " ++ op.symbol ++ " "))
      rw [expr, exprAt, checkDepth_unlimited unlimited]
      simpa only [exprFrame, Expr.children, exprAt_unlimited style unlimited, ok_bind, bind_assoc,
        pure_bind, String.append_assoc, Frame.append_assoc, List.cons_append, List.nil_append]
        using joined
  | not operand span =>
      have negated :=
        (composes_operand style (operand.binding < notPrecedence) operand).preceded "NOT "
      rw [expr, exprAt, checkDepth_unlimited unlimited]
      simpa only [exprFrame, Expr.children, exprAt_unlimited style unlimited, ok_bind, bind_assoc,
        pure_bind] using negated
  | isNull operand negated span =>
      have tested := (composes_operand style (operand.binding ≤ isNullPrecedence) operand).followed
        (if negated then " IS NOT NULL" else " IS NULL")
      rw [expr, exprAt, checkDepth_unlimited unlimited]
      simpa only [exprFrame, Expr.children, exprAt_unlimited style unlimited, ok_bind, bind_assoc,
        pure_bind] using tested

theorem composes_indexColumnList (list : IndexColumnList) :
    style.Composes (list.columns.map .indexColumn) (style.frame (.indexColumnList list))
      (style.indexColumnList list) := by
  rw [frame, indexColumnList]
  split
  · exact .refuse
  · have columns : style.Composes (list.columns.flatMap fun column => [.indexColumn column])
        (do return .separated (← list.columns.mapM fun _ => pure .place))
        (do return commaSeparated (← list.columns.mapM style.indexColumn)) :=
      .separated fun column _ => .child style (.indexColumn column)
    simpa only [List.map_eq_flatMap, List.mapM_pure, pure_bind] using columns

/-! ### Parts of statements -/

theorem composes_storageClause (storage : Option StorageFormat) :
    style.Composes (storage.toList.map .storageFormat) (pure (storageFrame storage))
      (style.storageClause storage) :=
  composes_optional style (fun _ => rfl) rfl (fun _ => String.append_empty.symm) storage

theorem composes_enclosed (node : Node) :
    style.Composes [node] (pure .enclosed) (do return "(" ++ (← style.render node) ++ ")") := by
  simpa only [Frame.enclosed, bind_assoc, pure_bind] using
    ((Composes.child style node).preceded "(").followed ")"

theorem composes_keyColumns (columns : ColumnList) :
    style.Composes [.columnList columns] (pure .enclosed) (style.keyColumns columns) :=
  composes_enclosed style (.columnList columns)

theorem composes_indexBody (index : IndexDefinition) :
    style.Composes [.indexColumnList index.columns] (pure (indexFrame index))
      (style.indexBody index) := by
  simpa only [indexFrame, indexBody, render, bind_assoc, pure_bind] using
    (composes_enclosed style (.indexColumnList index.columns)).followed (joinClause index.joinType)

theorem composes_constraintName (name : Option TableName) :
    style.Composes (name.toList.map .tableName) (pure (.optional "CONSTRAINT " " " name))
      (style.constraintName name) :=
  composes_optional style (fun _ => rfl) rfl (fun _ => rfl) name

theorem composes_refColumns (refColumns : Option ColumnList) :
    style.Composes (refColumns.toList.map .columnList) (pure (.optional " (" ")" refColumns))
      (do return trailing (← optional style.keyColumns refColumns)) := by
  cases refColumns with
  | none => exact .word style ""
  | some columns =>
      simpa only [optional, bind_map, trailing, Frame.optional, Frame.enclosed, Frame.place,
        Frame.last_append, Frame.child_append, Frame.precede, bind_assoc, pure_bind,
        String.append_empty, String.empty_append, String.reduceAppend, Option.toList_some,
        List.map_cons, List.map_nil] using (composes_keyColumns style columns).preceded " "

theorem composes_foreignKey (key : ForeignKey) :
    style.Composes (ConstraintBody.foreignKey key).children (pure (foreignKeyFrame key))
      (style.foreignKey key) := by
  have columns := (composes_keyColumns style key.columns).preceded
    (wordIf key.grouping "GROUPING " ++ "FOREIGN KEY ")
  have refTable := (Composes.child style (.tableName key.refTable)).preceded " REFERENCES "
  have written := (columns.andThen (refTable.andThen
    (composes_refColumns style key.refColumns))).followed
      (trailing (key.matchType.map ("MATCH " ++ ·.keyword))
        ++ " ON DELETE " ++ key.deleteRule.keyword ++ " ON UPDATE " ++ key.updateRule.keyword
        ++ wordIf key.deferrable
          (" DEFERRABLE" ++ wordIf key.initiallyDeferred " INITIALLY DEFERRED"))
  simpa only [foreignKeyFrame, foreignKey, render, ConstraintBody.children, bind_assoc, pure_bind,
    String.append_assoc, Frame.append_assoc, List.cons_append, List.nil_append] using written

theorem composes_constraintDrop (name : Option TableName) (drop : ConstraintDrop) :
    style.Composes (name.toList.map .tableName) (constraintFrame name (.drop drop))
      (style.constraintDrop name drop) := by
  rw [constraintFrame, constraintDrop]
  split
  · exact .refuse
  · have named : style.Composes (name.toList.map .tableName) (pure (.optional " " "" name))
        (do return trailing (← optional style.tableName name)) :=
      composes_optional style (fun _ => rfl) rfl (fun _ => String.append_empty.symm) name
    have written := (named.preceded ("DROP " ++ wordIf drop.grouping "GROUPING "
      ++ drop.constraintType.keyword ++ trailing drop.existence.keyword?)).followed
        (trailing (drop.behavior.map (·.keyword)))
    simpa only [bind_assoc, pure_bind, String.append_assoc, Frame.append_assoc] using written

theorem composes_constraint (c : Constraint) :
    style.Composes (Node.constraint c).children (constraintFrame c.name c.body)
      (style.constraint c) := by
  obtain ⟨name, body, span⟩ := c
  have named := composes_constraintName style name
  cases body with
  | primaryKey columns =>
      simpa only [constraint, constraintFrame, Node.children, ConstraintBody.children, bind_assoc,
        pure_bind, String.append_assoc, Frame.append_assoc] using
        named.andThen ((composes_keyColumns style columns).preceded "PRIMARY KEY ")
  | unique columns =>
      simpa only [constraint, constraintFrame, Node.children, ConstraintBody.children, bind_assoc,
        pure_bind, String.append_assoc, Frame.append_assoc] using
        named.andThen ((composes_keyColumns style columns).preceded "UNIQUE ")
  | check condition =>
      have tested := ((Composes.child style (.expr condition)).preceded "CHECK (").followed ")"
      simpa only [constraint, constraintFrame, render, Node.children, ConstraintBody.children,
        bind_assoc, pure_bind, String.append_assoc, Frame.append_assoc] using named.andThen tested
  | foreignKey key =>
      simpa only [constraint, constraintFrame, Node.children, bind_assoc, pure_bind] using
        named.andThen (composes_foreignKey style key)
  | drop drop =>
      simpa only [constraint, Node.children, ConstraintBody.children, List.append_nil] using
        composes_constraintDrop style name drop

theorem composes_columnDefinition (column : ColumnDefinition) :
    style.Composes (Node.columnDefinition column).children (style.frame (.columnDefinition column))
      (style.columnDefinition column) := by
  have head := Composes.own style (do
    return (← style.identifier .columnDefinition column.name) ++ " " ++ column.dataType.text)
  have value : style.Composes (column.defaultValue.toList.map .expr)
      (pure (.optional " DEFAULT " "" column.defaultValue))
      (do return trailing ((← optional style.expr column.defaultValue).map ("DEFAULT " ++ ·))) :=
    composes_optional style (fun _ => rfl) rfl
      (fun _ => (String.append_assoc ..).symm.trans String.append_empty.symm) _
  simpa only [frame, columnDefinition, Node.children, bind_assoc, pure_bind, String.append_assoc,
    Frame.append_assoc, List.nil_append] using
      (head.andThen value).followed (wordIf column.notNull " NOT NULL")

theorem composes_indexConstraint (constraint : IndexConstraint) :
    style.Composes (Node.indexConstraint constraint).children
      (style.frame (.indexConstraint constraint)) (style.indexConstraint constraint) := by
  have head := Composes.own style (do
    return wordIf constraint.index.unique "UNIQUE " ++ "INDEX "
      ++ (← style.identifier .indexConstraint constraint.name) ++ " ")
  have written := head.andThen ((composes_indexBody style constraint.index).andThen
    (composes_storageClause style constraint.index.storageFormat))
  simpa only [frame, indexConstraint, Node.children, IndexDefinition.children, bind_assoc,
    pure_bind, String.append_assoc, Frame.append_assoc, List.cons_append, List.nil_append] using
    written

/-! ### Statements -/

theorem composes_createIndex (create : CreateIndex) :
    style.Composes (Statement.createIndex create).children
      (style.statementFrame (.createIndex create)) (style.createIndex create) := by
  have name := (Composes.child style (.tableName create.name)).preceded
    ("CREATE " ++ wordIf create.index.unique "UNIQUE " ++ "INDEX "
      ++ leading create.existence.keyword?)
  have table := (Composes.child style (.tableName create.table)).preceded " ON "
  have body := (composes_indexBody style create.index).preceded " "
  have clause := Composes.own style (optionClause .createIndex " WITH " create.options)
  have written := name.andThen (table.andThen (body.andThen (clause.andThen
    (composes_storageClause style create.index.storageFormat))))
  simpa only [statementFrame, createIndex, render, Statement.children, IndexDefinition.children,
    bind_assoc, pure_bind, String.append_assoc, Frame.append_assoc, List.cons_append,
    List.nil_append] using written

theorem composes_dropIndex (drop : DropIndex) :
    style.Composes (Statement.dropIndex drop).children (style.statementFrame (.dropIndex drop))
      (style.dropIndex drop) := by
  simpa only [statementFrame, dropIndex, render, Statement.children, pure_bind] using
    (Composes.child style (.tableName drop.name)).preceded
      ("DROP INDEX " ++ leading drop.existence.keyword?)

theorem render_node (element : TableElement) :
    style.render element.node = style.tableElement element := by
  cases element <;> rfl

theorem composes_createTable (create : CreateTable) :
    style.Composes (Statement.createTable create).children
      (style.statementFrame (.createTable create)) (style.createTable create) := by
  rw [statementFrame, createTable]
  split
  · exact .refuse
  · have name := ((Composes.child style (.tableName create.name)).preceded
      ("CREATE TABLE " ++ leading create.existence.keyword?)).followed " ("
    have elements : style.Composes (create.elements.flatMap fun element => [element.node])
        (do return .separated (← create.elements.mapM fun _ => pure .place))
        (do return commaSeparated (← create.elements.mapM style.tableElement)) :=
      .separated fun element _ => render_node style element ▸ .child style element.node
    have written := name.andThen ((elements.followed ")").andThen
      (composes_storageClause style create.storageFormat))
    simpa only [render, Statement.children, List.map_eq_flatMap, List.mapM_pure, bind_assoc,
      pure_bind, String.append_assoc, Frame.append_assoc, List.cons_append, List.nil_append] using
      written

theorem composes_dropTable (drop : DropTable) :
    style.Composes (Statement.dropTable drop).children (style.statementFrame (.dropTable drop))
      (style.dropTable drop) := by
  have name := (Composes.child style (.tableName drop.name)).preceded
    ("DROP TABLE " ++ leading drop.existence.keyword?)
  simpa only [statementFrame, dropTable, render, Statement.children, bind_assoc, pure_bind] using
    name.followed (trailing (drop.behavior.map (·.keyword)))

theorem composes_alterAction (action : AlterAction) :
    style.Composes action.node?.toList (style.actionFrame action) (style.alterAction action) := by
  cases action with
  | addConstraint c =>
      simpa only [actionFrame, alterAction, render, AlterAction.node?, Option.toList_some,
        pure_bind] using (Composes.child style (.constraint c)).preceded "ADD "
  | dropConstraint c => exact .child style (.constraint c)
  | addColumn column =>
      simpa only [actionFrame, alterAction, render, AlterAction.node?, Option.toList_some,
        pure_bind] using (Composes.child style (.columnDefinition column)).preceded "ADD COLUMN "
  | dropColumn column existence =>
      have written := Composes.own style (style.alterAction (.dropColumn column existence))
      simpa only [alterAction, actionFrame, AlterAction.node?, Option.toList_none, bind_assoc,
        pure_bind] using written

theorem composes_alterTable (alter : AlterTable) :
    style.Composes (Statement.alterTable alter).children (style.statementFrame (.alterTable alter))
      (style.alterTable alter) := by
  rw [statementFrame, alterTable]
  split
  · exact .refuse
  · have name := (Composes.child style (.tableName alter.name)).preceded "ALTER TABLE "
    have actions : style.Composes (alter.actions.flatMap fun action => action.node?.toList) _ _ :=
      .separated fun action _ => composes_alterAction style action
    simpa only [render, Statement.children, List.filterMap_eq_flatMap_toList, bind_assoc, pure_bind,
      String.append_assoc, Frame.append_assoc, List.cons_append, List.nil_append] using
      name.andThen (actions.preceded " ")

theorem composes_statement (s : Statement) :
    style.Composes s.children (style.statementFrame s) (style.statement s) := by
  cases s with
  | createIndex create => exact composes_createIndex style create
  | dropIndex drop => exact composes_dropIndex style drop
  | createTable create => exact composes_createTable style create
  | dropTable drop => exact composes_dropTable style drop
  | alterTable alter => exact composes_alterTable style alter

/-- A node is rendered to the texts of its children in its frame. -/
theorem composes_render (unlimited : style.maxDepth = none) (node : Node) :
    style.Composes node.children (style.frame node) (style.render node) := by
  cases node with
  | tableName | columnList | storageFormat => exact .own style _
  | expr e => exact composes_expr style unlimited e
  | indexColumn column =>
      simpa only [frame, render, indexColumn, Node.children] using
        (composes_column style .indexColumn column.table column.column).followed
          (wordIf (!column.ascending) " DESC")
  | indexColumnList list => exact composes_indexColumnList style list
  | columnDefinition column => exact composes_columnDefinition style column
  | constraint c => exact composes_constraint style c
  | indexConstraint constraint => exact composes_indexConstraint style constraint
  | statement s => exact composes_statement style s

end Composed

/-! ## Frames do not depend on the children -/

section Refitted

variable {style : Style}

theorem constraintFrame_of_refit {name other : Option TableName} {body body' : ConstraintBody}
    (same : other.isSome = name.isSome) (inside : body.Refit body') :
    constraintFrame other body' = constraintFrame name body := by
  cases inside with
  | foreignKey columns refTable sameColumns =>
      simp only [constraintFrame, foreignKeyFrame, Frame.optional_congr same,
        Frame.optional_congr sameColumns]
  | drop drop =>
      -- a drop without a name is refused, whatever its name would have been
      have none : other.isNone = name.isNone := by
        rw [← Option.not_isSome, ← Option.not_isSome, same]
      simp only [constraintFrame, none, Frame.optional_congr same]
  | _ => simp only [constraintFrame, Frame.optional_congr same]

theorem actionFrame_of_refit {action other : AlterAction} (inside : action.Refit other) :
    style.actionFrame other = style.actionFrame action := by
  cases inside <;> rfl

theorem actionFrames_of_refit {actions others : List AlterAction}
    (inside : List.Forall₂ AlterAction.Refit actions others) :
    others.mapM style.actionFrame = actions.mapM style.actionFrame := by
  induction inside with
  | nil => rfl
  | cons first _ ih => rw [List.mapM_cons, List.mapM_cons, actionFrame_of_refit first, ih]

theorem indexFrame_of_refit {index other : IndexDefinition} (inside : index.Refit other) :
    indexFrame other = indexFrame index ∧ other.unique = index.unique ∧
      storageFrame other.storageFormat = storageFrame index.storageFormat := by
  cases inside with
  | mk columns same => exact ⟨rfl, rfl, Frame.optional_congr same⟩

/-- Other children leave the text around them as it is, unless an operand gets parentheses or loses
    them. -/
theorem frame_of_refit {node other : Node} (refit : node.Refit other)
    (grouped : other.groups = node.groups) : style.frame other = style.frame node := by
  cases refit with
  | leaf bare => rfl
  | column same => simp only [frame, exprFrame, columnFrame, Frame.optional_congr same]
  | binary left right =>
      -- of the operands, only what decides about their parentheses is left in the frame
      simp only [Node.groups, List.cons.injEq] at grouped
      simp only [frame, exprFrame, grouped]
  | not operand | isNull operand =>
      simp only [Node.groups, List.cons.injEq] at grouped
      simp only [frame, exprFrame, grouped]
  | indexColumn same => simp only [frame, columnFrame, Frame.optional_congr same]
  | indexColumnList same =>
      simp only [frame, List.isEmpty_iff_length_eq_zero, List.map_const', same]
  | columnDefinition same => simp only [frame, Frame.optional_congr same]
  | constraint same inside => exact constraintFrame_of_refit same inside
  | indexConstraint inside =>
      obtain ⟨body, unique, storage⟩ := indexFrame_of_refit inside
      simp only [frame, body, unique, storage]
  | createIndex name table inside =>
      obtain ⟨body, unique, storage⟩ := indexFrame_of_refit inside
      simp only [frame, statementFrame, body, unique, storage]
  | dropIndex | dropTable => rfl
  | createTable name many same =>
      simp only [frame, statementFrame, List.isEmpty_iff_length_eq_zero, List.map_const', many,
        storageFrame, Frame.optional_congr same]
  | alterTable name inside =>
      simp only [frame, statementFrame, List.isEmpty_iff_length_eq_zero, ← inside.length_eq,
        actionFrames_of_refit inside]

end Refitted

end Style

/-- The text of a node is the texts of its children, each as it is by itself and in the order of the
    children, with a frame around them. The frame stays when the children are replaced, as long as
    operands keep or lack their parentheses: the new text is the texts of the new children in it. -/
theorem render_composes {style : Style} (unlimited : style.maxDepth = none) {node : Node}
    {text : String} (rendered : style.render node = .ok text) :
    ∃ frame : Frame, frame.places = node.children.length ∧
      (∃ texts, node.children.mapM style.render = .ok texts ∧ text = frame.fill texts) ∧
      ∀ other, node.Refit other → other.groups = node.groups →
        frame.places = other.children.length ∧
        ∀ otherText, style.render other = .ok otherText ↔
          ∃ texts, other.children.mapM style.render = .ok texts ∧ otherText = frame.fill texts := by
  have composed := Style.composes_render style unlimited
  obtain ⟨frame, framed, filled⟩ := ((composed node).fills text).mp rendered
  refine ⟨frame, filled.1, filled.2, fun other refit grouped => ?_⟩
  have same : style.frame other = .ok frame := (Style.frame_of_refit refit grouped).trans framed
  have places := (composed other).places frame same
  refine ⟨places, fun otherText => ((composed other).fills otherText).trans ?_⟩
  simp only [same, Except.ok.injEq, exists_eq_left', Style.Fills, places, true_and]

/-- The condition of a check is replaced. -/
theorem render_composes_check :
    let check (condition : Expr) : Node :=
      .constraint ⟨some ⟨none, .regular "c", {}⟩, .check condition, {}⟩
    ∃ frame : Frame, frame.places = 2 ∧
      Style.render {} (check (.column none (.regular "a") {})) = .ok (frame.fill ["c", "a"]) ∧
      Style.render {} (check (.not (.boolean true {}) {})) = .ok (frame.fill ["c", "NOT TRUE"]) := by
  intro check
  have rendered : Style.render {} (check (.column none (.regular "a") {}))
      = .ok "CONSTRAINT c CHECK (a)" := rfl
  obtain ⟨frame, places, ⟨texts, written, filled⟩, refitted⟩ := render_composes rfl rendered
  have parts : ["c", "a"] = texts := Except.ok.inj written
  obtain ⟨-, composed⟩ := refitted (check (.not (.boolean true {}) {}))
    (.constraint rfl (.check _)) rfl
  refine ⟨frame, places, ?_, (composed _).mpr ⟨_, rfl, rfl⟩⟩
  rw [rendered, filled, parts]

end DdlTree
