import DdlTree.Proofs.Ancestry
import DdlTree.Proofs.Invariant
import DdlTree.Proofs.Numeral
import DdlTree.Proofs.UserText
import Mathlib.Algebra.BigOperators.Group.List.Basic
import Mathlib.Algebra.GroupWithZero.Nat

/-! # Lines of outlines

An outline has one line for each node as far as its own line breaks go. It escapes the line breaks
of string constants, but it writes names and options as they are: each line break that one of them
holds breaks the line of its node.
-/

namespace DdlTree

namespace Text

/-! ## Line breaks -/

/-- How many line breaks a text holds. -/
@[simp] abbrev breaks (text : String) : Nat :=
  text.toList.count '\n'

theorem breaks_append (first second : String) :
    breaks (first ++ second) = breaks first + breaks second := by
  rw [breaks, String.toList_append, List.count_append]

@[simp] theorem toString_text (text : String) : toString text = text :=
  rfl

@[simp] theorem breaks_toString_bool (b : Bool) : breaks (toString b) = 0 := by
  cases b <;> rfl

@[simp] theorem count_toDigits (n : Nat) : (Nat.toDigits 10 n).count '\n' = 0 := by
  rw [List.count_eq_zero]
  intro mem
  have digit := Nat.isDigit_of_mem_toDigits (by decide) (by decide) mem
  simp at digit

theorem breaks_numeral {literal : String} (numeral : Numeral.isNumeral literal) :
    breaks literal = 0 := by
  rw [breaks, List.count_eq_zero]
  intro mem
  exact absurd (Numeral.forall_inNumeral numeral '\n' mem) (by decide)

/-- Joined texts hold a character as often as the texts do, if the separator does not hold it. -/
theorem count_intercalate {c : Char} {separator : List Char} (plain : c ∉ separator)
    (parts : List (List Char)) :
    (separator.intercalate parts).count c = (parts.map (List.count c)).sum := by
  induction parts with
  | nil => rfl
  | cons part rest ih =>
      cases rest with
      | nil => simp
      | cons next rest =>
          rw [List.intercalate_cons_cons, List.count_append, List.count_append, ih,
            List.count_eq_zero.mpr plain, Nat.add_zero]
          rfl

/-- Marks that are written twice are not counted as other characters. -/
theorem count_double {mark c : Char} (other : c ≠ mark) (cs : List Char) :
    (double mark cs).count c = cs.count c := by
  induction cs with
  | nil => rfl
  | cons d rest ih =>
      rw [double]
      split_ifs with isMark
      · subst isMark
        simp [ih, List.count_cons_of_ne other.symm]
      · rw [List.count_cons, List.count_cons, ih]

theorem breaks_delimited {mark : Char} (other : '\n' ≠ mark) (text : String) :
    breaks (delimited mark text) = breaks text := by
  simp [delimited, count_double other, List.count_cons_of_ne other.symm]

theorem not_mem_hexDigits (n : Nat) : '\n' ∉ hexDigits n := by
  induction n using Nat.strongRecOn with
  | ind n ih =>
      rw [hexDigits, Nat.toDigits_eq_if (by decide)]
      split_ifs with small
      · simp
      · have shorter : n / 16 < n := by omega
        rw [List.mem_append, not_or]
        exact ⟨ih _ shorter, by simp⟩

theorem not_mem_escapedChar (c : Char) : '\n' ∉ escapedChar c := by
  by_cases newline : c = '\n'
  · subst newline
    decide
  · unfold escapedChar
    split_ifs
    all_goals simp [not_mem_hexDigits, Ne.symm newline]

/-- An escaped text is on one line, whatever the text. -/
@[simp] theorem breaks_escaped (text : String) : breaks (escaped text) = 0 := by
  rw [breaks, List.count_eq_zero, escaped]
  simp [not_mem_escapedChar]

/-! ## Lines of a text -/

section Lines

variable {mark : Char}

theorem length_splitOn (cs : List Char) : (cs.splitOn mark).length = cs.count mark + 1 := by
  induction cs with
  | nil => rfl
  | cons c rest ih =>
      rw [List.splitOn_cons_eq_if_modifyHead, List.count_cons]
      split_ifs
      · rw [List.length_cons, ih]
      · rw [List.length_modifyHead, ih, Nat.add_zero]

theorem count_lines (lines : List (List Char)) :
    (lines.flatMap (· ++ [mark])).count mark
      = lines.length + (lines.map (List.count mark)).sum := by
  induction lines with
  | nil => rfl
  | cons line rest ih =>
      rw [List.flatMap_cons, List.count_append, List.count_append, ih, List.map_cons,
        List.sum_cons, List.length_cons, List.count_singleton_self]
      omega

/-- Lines that end with a mark come back as they were exactly if none of them holds the mark. -/
theorem splitOn_lines {lines : List (List Char)} :
    (lines.flatMap (· ++ [mark])).splitOn mark = lines ++ [[]] ↔ ∀ line ∈ lines, mark ∉ line := by
  constructor
  · intro split
    -- there is one piece more than there are marks, so none is left for the lines themselves
    have long := congrArg List.length split
    rw [length_splitOn, count_lines, List.length_append, List.length_singleton] at long
    have free : (lines.map (List.count mark)).sum = 0 := by omega
    simpa [List.sum_eq_zero_iff_forall_eq_nat, List.count_eq_zero] using free
  · intro free
    induction lines with
    | nil => rfl
    | cons line rest ih =>
        rw [List.forall_mem_cons] at free
        rw [List.flatMap_cons, List.append_assoc, List.singleton_append,
          List.splitOn_append_cons_self_of_not_mem free.1, ih free.2]
        rfl

end Lines

theorem toList_join_lines (lines : List String) :
    (String.join (lines.map (· ++ "\n"))).toList
      = (lines.map String.toList).flatMap (· ++ ['\n']) := by
  rw [String.toList_join, List.flatMap_map, List.flatMap_map]
  simp only [String.toList_append]
  rfl

theorem breaks_join_lines (lines : List String) :
    breaks (String.join (lines.map (· ++ "\n"))) = lines.length + (lines.map breaks).sum := by
  rw [breaks, toList_join_lines, count_lines, List.length_map, List.map_map]
  rfl

theorem splitOn_join_lines {lines : List String} :
    (String.join (lines.map (· ++ "\n"))).toList.splitOn '\n' = lines.map String.toList ++ [[]] ↔
      (lines.map breaks).sum = 0 := by
  rw [toList_join_lines, splitOn_lines, List.sum_eq_zero_iff_forall_eq_nat, List.forall_mem_map,
    List.forall_mem_map]
  simp only [breaks, List.count_eq_zero]

end Text

/-! ## The line of a node -/

namespace Node

/-- The identifiers on the line of a node, not those on the lines below it. -/
@[simp] def ownIdentifiers : Node → List Identifier
  | .tableName table => table.identifiers
  | .expr (.column _ name _) => [name]
  | .columnList columns => columns.columns
  | .indexColumn column => [column.column]
  | .storageFormat storage => [storage.format]
  | .columnDefinition column => [column.name]
  | .indexConstraint index => [index.name]
  | .statement (.alterTable alter) => alter.actions.filterMap AlterAction.dropped?
  | _ => []

/-- What the line of a node does not escape: names, and the keys and values of options. -/
@[simp] def unescaped (node : Node) : List String :=
  node.ownIdentifiers.map Identifier.name
    ++ node.options?.toList.flatMap fun bag => bag.keys ++ bag.values

end Node

section Fields

open Text

@[simp] theorem Identifier.breaks_text (identifier : Identifier) :
    breaks identifier.text = breaks identifier.name := by
  rw [text]
  split
  · exact breaks_delimited (by decide) _
  · rfl

@[simp] theorem TableName.breaks_text (table : TableName) :
    breaks table.text = (table.identifiers.map fun part => breaks part.name).sum := by
  obtain ⟨schema, name, span⟩ := table
  cases schema <;> simp [text, identifiers]

@[simp] theorem DataType.breaks_text (type : DataType) : breaks type.text = 0 := by
  cases type <;> simp [text]

@[simp] theorem Options.breaks_field (bag : Options) :
    breaks bag.field = ((bag.keys ++ bag.values).map breaks).sum := by
  rw [field, isEmpty]
  split_ifs with none
  · rw [keys, values, List.isEmpty_iff.mp none]
    rfl
  · simp [shown, keys, values, count_intercalate, List.sum_map_add, Function.comp_def]

@[simp] theorem JoinType.breaks_field (join : Option JoinType) :
    breaks (JoinType.field join) = 0 := by
  rcases join with _ | _ | _ <;> rfl

@[simp] theorem ExistenceCheck.breaks_name (existence : ExistenceCheck) :
    breaks existence.name = 0 := by
  cases existence <;> rfl

@[simp] theorem BinaryOp.breaks_symbol (op : BinaryOp) : breaks op.symbol = 0 := by
  cases op <;> rfl

@[simp] theorem DropBehavior.breaks_name (behavior : DropBehavior) : breaks behavior.name = 0 := by
  cases behavior <;> rfl

@[simp] theorem MatchType.breaks_name (matchType : MatchType) : breaks matchType.name = 0 := by
  cases matchType <;> rfl

@[simp] theorem ReferentialAction.breaks_name (action : ReferentialAction) :
    breaks action.name = 0 := by
  cases action <;> rfl

@[simp] theorem ConstraintType.breaks_tag (type : ConstraintType) : breaks type.tag = 0 := by
  cases type <;> rfl

@[simp] theorem breaks_shownOption {α : Type} {name : α → String}
    (plain : ∀ value, breaks (name value) = 0) (value? : Option α) :
    breaks (shownOption (value?.map name)) = 0 := by
  cases value? with
  | none =>
      rw [Option.map_none, shownOption]
      rfl
  | some value =>
      rw [Option.map_some, shownOption]
      simp only [breaks_append, toString_text, plain]
      rfl

theorem Expr.breaks_fields {e : Expr} (rules : e.WellFormed) :
    breaks e.fields = ((Node.expr e).unescaped.map breaks).sum := by
  cases e with
  | number literal span => simpa [fields, Node.options?] using breaks_numeral rules
  | _ => simp [fields, Node.options?]

theorem ForeignKey.breaks_fields (key : ForeignKey) : breaks key.fields = 0 := by
  unfold fields
  simp only [breaks_append, toString_text, ReferentialAction.breaks_name,
    breaks_shownOption MatchType.breaks_name, breaks_toString_bool]
  rfl

theorem ConstraintDrop.breaks_fields (drop : ConstraintDrop) : breaks drop.fields = 0 := by
  unfold fields
  simp only [breaks_append, toString_text, ExistenceCheck.breaks_name,
    breaks_shownOption DropBehavior.breaks_name, breaks_toString_bool]
  rfl

theorem Constraint.breaks_fields (c : Constraint) : breaks c.fields = 0 := by
  unfold fields
  split <;> simp only [breaks_append, toString_text, ConstraintType.breaks_tag,
    ForeignKey.breaks_fields, ConstraintDrop.breaks_fields] <;> rfl

theorem AlterAction.breaks_droppedColumn? (action : AlterAction) :
    action.droppedColumn?.map breaks = action.dropped?.map fun column => breaks column.name := by
  cases action with
  | dropColumn column existence =>
      cases existence <;> simp [droppedColumn?, dropped?, ExistenceCheck.name]
  | _ => rfl

theorem AlterTable.breaks_fields (alter : AlterTable) :
    breaks (Statement.alterTable alter).fields
      = ((alter.actions.filterMap AlterAction.dropped?).map fun column =>
          breaks column.name).sum := by
  have columns : (alter.actions.filterMap AlterAction.droppedColumn?).map breaks
      = (alter.actions.filterMap AlterAction.dropped?).map fun column => breaks column.name := by
    rw [List.map_filterMap, List.map_filterMap]
    exact congrArg (alter.actions.filterMap ·) (funext AlterAction.breaks_droppedColumn?)
  rw [← columns, Statement.fields]
  -- the field is left out if no column is dropped
  split
  · rename_i none
    rw [none]
    rfl
  · simp [count_intercalate, Function.comp_def]

theorem Statement.breaks_fields (s : Statement) :
    breaks s.fields = ((Node.statement s).unescaped.map breaks).sum := by
  cases s with
  | alterTable alter =>
      rw [alter.breaks_fields]
      simp [Node.options?, Function.comp_def]
  | _ => simp [fields, Node.options?]

theorem Node.breaks_fields {rule : DataType → Prop} {node : Node} (rules : node.WellFormed rule) :
    breaks node.fields = (node.unescaped.map breaks).sum := by
  cases node with
  | expr e => exact Expr.breaks_fields rules
  | constraint c => exact c.breaks_fields
  | statement s => exact s.breaks_fields
  | _ => simp [fields, options?, count_intercalate, Function.comp_def]

theorem NodeKind.breaks_name (kind : NodeKind) : breaks kind.name = 0 := by
  cases kind <;> rfl

/-- The line of a node is broken exactly by what it does not escape. -/
theorem Node.breaks_line {rule : DataType → Prop} {node : Node} (rules : node.WellFormed rule)
    (indent : Nat) :
    breaks (String.ofList (List.replicate indent ' ') ++ node.kind.name ++ node.fields)
      = (node.unescaped.map breaks).sum := by
  have kind := node.kind.breaks_name
  have fields := node.breaks_fields rules
  simp_all [List.count_replicate]

end Fields

/-! ## The lines of an outline -/

theorem Node.outline_eq (node : Node) :
    node.outline
      = String.join ((node.ancestry []).map fun entry => outlineLine entry.1.length entry.2) := by
  have leveled := leveled_eq_map_ancestry [] node
  rw [List.length_nil] at leveled
  rw [outline, leveled, List.map_map]
  rfl

/-- An outline has the lines of its nodes in the order of the walk, each indented by two spaces for
    each node above and ended by a line break. Beyond those, its line breaks are the ones in the
    names and options of the nodes. So it splits at its line breaks into the lines of the nodes
    exactly if no name and no option holds one. -/
theorem outline_lines {node : Node} (reachable : Reachable (fun _ => True) node) :
    let lines := (node.ancestry []).map fun entry =>
      String.ofList (List.replicate (2 * entry.1.length) ' ') ++ entry.2.kind.name ++ entry.2.fields
    (node.ancestry []).map Prod.snd = node.dfs ∧
    node.outline = String.join (lines.map (· ++ "\n")) ∧
    Text.breaks node.outline
      = node.dfs.length + ((node.dfs.flatMap Node.unescaped).map Text.breaks).sum ∧
    (node.outline.toList.splitOn '\n' = lines.map String.toList ++ [[]] ↔
      ∀ part ∈ node.dfs, ∀ text ∈ part.unescaped, '\n' ∉ text.toList) := by
  intro lines
  have rules : ∀ part ∈ node.dfs, part.WellFormed fun _ => True :=
    reachable.valid (fun _ _ => trivial) fun _ _ => trivial
  have nodes := node.map_snd_ancestry []
  have outline : node.outline = String.join (lines.map (· ++ "\n")) := by
    rw [node.outline_eq, List.map_map]
    rfl
  have long : lines.length = node.dfs.length := by rw [← nodes, List.length_map, List.length_map]
  have breaks : (lines.map Text.breaks).sum
      = ((node.dfs.flatMap Node.unescaped).map Text.breaks).sum := by
    have each : lines.map Text.breaks
        = node.dfs.map fun part => (part.unescaped.map Text.breaks).sum := by
      rw [← nodes, List.map_map, List.map_map]
      exact List.map_congr_left fun entry mem =>
        Node.breaks_line (rules entry.2 (Node.mem_dfs_of_mem_ancestry mem)) _
    rw [each, List.flatMap_def, List.map_flatten, List.sum_flatten, List.map_map, List.map_map]
    rfl
  refine ⟨nodes, outline, ?_, ?_⟩
  · rw [outline, Text.breaks_join_lines, long, breaks]
  · rw [outline, Text.splitOn_join_lines, breaks, List.sum_eq_zero_iff_forall_eq_nat,
      List.forall_mem_map, List.forall_mem_flatMap]
    simp only [Text.breaks, List.count_eq_zero]

/-- A comparison with a string constant that has a line break in it: the constant stays on its
    line. -/
theorem outline_lines_comparison :
    let column : Expr := .column none (.regular "a") {}
    let constant : Expr := .string "x\ny" {}
    let node : Node := .expr (.binary .eq column constant {})
    Reachable (fun _ => True) node ∧
      node.outline.toList.splitOn '\n' = ["BinaryOperator op==", "  ColumnReference column=a",
        "  StringConstant value=\"x\\ny\"", ""].map String.toList := by
  intro column constant node
  have built : Expr.buildColumn none (.regular "a") = .ok column := rfl
  have whole : Constructed (fun _ => True) {} node := .binary .eq column constant
  have reachable : Reachable (fun _ => True) node := by
    refine .construct whole (List.forall_mem_cons.mpr ⟨.leaf {} (.column built) rfl, ?_⟩)
    exact List.forall_mem_singleton.mpr (.leaf {} (.string "x\ny") rfl)
  have entries : node.ancestry []
      = [([], node), ([node], .expr column), ([node], .expr constant)] := by
    simp [node, column, constant, Node.ancestry_eq, Node.children, Expr.children]
  obtain ⟨nodes, -, -, split⟩ := outline_lines reachable
  refine ⟨reachable, (split.mpr ?_).trans ?_⟩
  · rw [← nodes, entries]
    simp [node, column, constant, Node.options?, Identifier.regular]
  · rw [entries]
    decide +kernel

/-- A delimited name with a line break takes two lines for one node. -/
theorem outline_breaks_at_name :
    let table : TableName := ⟨none, .delimited "a\nb", {}⟩
    TableName.build none (.delimited "a\nb") = .ok table ∧
      Reachable (fun _ => True) (.tableName table) ∧
      (Node.tableName table).dfs = [.tableName table] ∧
      (Node.tableName table).outline = "TableName name=\"a\nb\"\n" ∧
      Text.breaks (Node.tableName table).outline = 2 := by
  intro table
  have built : TableName.build none (.delimited "a\nb") = .ok table := rfl
  have entries : (Node.tableName table).ancestry [] = [([], .tableName table)] := by
    simp [Node.ancestry_eq, Node.children]
  have nodes : (Node.tableName table).dfs = [.tableName table] := by
    rw [← Node.map_snd_ancestry [], entries]
    rfl
  have outline : (Node.tableName table).outline = "TableName name=\"a\nb\"\n" := by
    rw [Node.outline_eq, entries]
    decide +kernel
  refine ⟨built, .leaf {} (.tableName built) rfl, nodes, outline, ?_⟩
  rw [outline]
  rfl

end DdlTree
