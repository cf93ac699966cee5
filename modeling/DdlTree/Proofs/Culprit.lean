import DdlTree.Proofs.CopyWalk

/-! # What a failed copy reports

A copy that fails reports the first failure of the walk as it is. The nodes around the one that
failed add nothing to it, and what lies below that node has been copied.
-/

namespace DdlTree

/-! ## Before a node is left -/

namespace Node

/-- An item of a list that is put together lies in the first part, or after all of it. -/
private theorem append_eq_split {α : Type} {first second before after : List α} {item : α}
    (split : first ++ second = before ++ item :: after) :
    (∃ rest, first = before ++ item :: rest) ∨
      ∃ between, before = first ++ between ∧ second = between ++ item :: after := by
  rcases List.append_eq_append_iff.mp split with ⟨between, within, rest⟩ | ⟨common, within, rest⟩
  · exact .inr ⟨between, within, rest⟩
  · cases common with
    | nil => exact .inr ⟨[], by simpa using within.symm, by simpa using rest.symm⟩
    | cons head tail =>
        obtain ⟨rfl, -⟩ := List.cons.inj rest
        exact .inl ⟨tail, within⟩

/-- A visit below some nodes is a visit below one of them, after what comes before it there. -/
private theorem flatMap_eq_split {α β : Type} {f : α → List β} {items : List α}
    {before after : List β} {visit : β} (split : items.flatMap f = before ++ visit :: after) :
    ∃ item ∈ items, ∃ earlier later, f item = earlier ++ visit :: later ∧ earlier ⊆ before := by
  induction items generalizing before with
  | nil => simp at split
  | cons item rest ih =>
      rw [List.flatMap_cons] at split
      rcases append_eq_split split with ⟨later, within⟩ | ⟨between, rfl, beyond⟩
      · exact ⟨item, List.mem_cons_self, before, later, within, List.Subset.refl before⟩
      · obtain ⟨found, mem, earlier, later, within, below⟩ := ih beyond
        exact ⟨found, List.mem_cons_of_mem item mem, earlier, later, within,
          List.subset_append_of_subset_right _ below⟩

/-- A node is left after the walks through its children. -/
theorem visits_before_leave {level inner : Nat} {node part : Node} {before after : List Visit}
    (walk : node.visits level = before ++ .leave inner part :: after) :
    ∀ child ∈ part.children, child.visits (inner + 1) ⊆ before := by
  rw [visits_eq, List.cons_append] at walk
  cases before with
  | nil => cases (List.cons.inj walk).1
  | cons enter before =>
      rcases append_eq_split (List.cons.inj walk).2 with ⟨rest, within⟩ | ⟨between, rfl, last⟩
      · obtain ⟨child, isChild, earlier, later, below, subset⟩ := flatMap_eq_split within
        intro grandchild mem
        exact List.Subset.trans (visits_before_leave below grandchild mem)
          (List.subset_cons_of_subset enter subset)
      · have own : between = [] ∧ (level = inner ∧ node = part) ∧ after = [] := by
          cases between <;> simp_all
        obtain ⟨rfl, ⟨rfl, rfl⟩, -⟩ := own
        intro child mem visit isVisit
        simpa using Or.inr ⟨child, mem, isVisit⟩
termination_by node.size
decreasing_by exact size_lt_of_mem_children isChild

/-- A walk through a valid tree leaves valid trees. -/
theorem Valid.of_leave {rule : DataType → Prop} {level inner : Nat} {node part : Node}
    (valid : node.Valid rule) (left : .leave inner part ∈ node.visits level) : part.Valid rule := by
  have below := (valid_iff.mp valid).2
  rw [visits_eq] at left
  simp only [List.mem_append, List.mem_cons, List.mem_flatMap, List.not_mem_nil, or_false,
    reduceCtorEq, false_or, Visit.leave.injEq] at left
  rcases left with ⟨child, isChild, inChild⟩ | ⟨-, rfl⟩
  · exact (below child isChild).of_leave inChild
  · exact valid
termination_by node.size
decreasing_by exact size_lt_of_mem_children isChild

end Node

/-! ## The report -/

private theorem head?_append {start : String} {c : Char} (first : start.toList.head? = some c)
    (rest : String) : (start ++ rest).toList.head? = some c := by
  simp [String.toList_append, first]

theorem CopyError.head?_message (error : CopyError) : error.message.toList.head? = some 'C' :=
  head?_append (head?_append (head?_append rfl _) _) _

theorem CopyFault.head?_message (fault : CopyFault) :
    ∃ c, c ≠ 'C' ∧ fault.message.toList.head? = some c := by
  cases fault with
  | tooDeep limit => exact ⟨'t', by decide, head?_append rfl _⟩
  | refused error =>
      cases error with
      | malformed kind fault =>
          exact ⟨'M', by decide, head?_append (head?_append (head?_append rfl _) _) _⟩
      | disabled feature => exact ⟨'F', by decide, head?_append (head?_append rfl _) _⟩

/-- The reason why a node was not copied is not the report of a copy that failed. -/
theorem CopyFault.message_ne (fault : CopyFault) (error : CopyError) :
    fault.message ≠ error.message := by
  intro same
  obtain ⟨c, other, first⟩ := fault.head?_message
  rw [same, error.head?_message] at first
  exact other (Option.some.inj first).symm

theorem CopyError.message_tooDeep (kind : NodeKind) (limit : Nat) :
    (CopyError.mk kind (.tooDeep limit)).message
      = s!"Copy of {kind.name} failed: tree is deeper than the copy limit of {limit}" := by
  have joined : " failed: " ++ "tree is deeper than the copy limit of "
      = " failed: tree is deeper than the copy limit of " := by simp
  calc (CopyError.mk kind (.tooDeep limit)).message
    _ = "Copy of " ++ kind.name ++ " failed: "
          ++ ("tree is deeper than the copy limit of " ++ toString limit) := rfl
    _ = "Copy of " ++ kind.name ++ (" failed: " ++ "tree is deeper than the copy limit of ")
          ++ toString limit := by simp only [String.append_assoc]
    _ = _ := by rw [joined]; rfl

/-- A failed copy names the innermost node that could not be copied. The walk enters each node
    before what lies below it and leaves it after that, with the children in their order. The error
    is about the first visit that fails: a node that lies as deep as the limit when it is entered,
    or one that its own constructor refuses when it is left, with copies of its children that are
    the children themselves. The report gives the limit or the refusal as it is; it is never a
    report of a failed copy inside another one. -/
theorem copy_names_culprit {node : Node} (reachable : Reachable (fun _ => True) node)
    {session : Session} {error : CopyError} (failed : session.copy node = .error error) :
    (∃ before visit after, node.visits 0 = before ++ visit :: after ∧
      (∀ earlier ∈ before, session.failure? earlier = none) ∧
      match visit with
      | .enter level culprit => ∃ limit, session.maxCopyDepth = some limit ∧ limit ≤ level ∧
          error = ⟨culprit.kind, .tooDeep limit⟩ ∧
          error.message
            = s!"Copy of {culprit.kind.name} failed: tree is deeper than the copy limit of {limit}"
      | .leave level culprit => ∃ refusal, culprit.rebuild session = .error refusal ∧
          (∀ child ∈ culprit.children, (child.copy { session, depth := level + 1 }).1 = .ok child) ∧
          error = ⟨culprit.kind, .refused refusal⟩ ∧
          error.message = s!"Copy of {culprit.kind.name} failed: {refusal.message}") ∧
      ∀ other : CopyError, error.fault.message ≠ other.message := by
  refine ⟨?_, error.fault.message_ne⟩
  have valid : node.Valid fun _ => True := reachable.valid (fun _ => id) fun _ _ => trivial
  have isFirst : (node.visits 0).findSome? session.failure? = some error := by
    rw [Session.copy, Node.copy_outcome valid] at failed
    exact Session.outcome_eq_error.mp failed
  obtain ⟨before, visit, after, walk, fails, passed⟩ := List.findSome?_eq_some_iff.mp isFirst
  refine ⟨before, visit, after, walk, passed, ?_⟩
  cases visit with
  | enter level culprit =>
      obtain ⟨limit, deep, rfl⟩ := Option.map_eq_some_iff.mp fails
      obtain ⟨given, reached⟩ := Option.filter_eq_some_iff.mp deep
      exact ⟨limit, given, by simpa using reached, rfl, CopyError.message_tooDeep _ _⟩
  | leave level culprit =>
      rw [Session.failure?] at fails
      cases refused : culprit.rebuild session with
      | ok fresh => simp [refused] at fails
      | error refusal =>
          rw [refused] at fails
          obtain rfl := Option.some.inj fails
          refine ⟨refusal, refused, fun child isChild => ?_, rfl, rfl⟩
          have left : .leave level culprit ∈ node.visits 0 := by simp [walk]
          have childValid := (Node.valid_iff.mp (valid.of_leave left)).2 child isChild
          rw [Node.copy_outcome childValid, Session.outcome_eq_ok]
          refine ⟨fun visit isVisit => passed visit ?_, rfl⟩
          exact Node.visits_before_leave walk child isChild isVisit

/-- A table with a default and with a storage format that is not enabled. The default lies too deep
    for one session and is met first; another one gets as far as the storage format. -/
theorem copy_names_culprit_table :
    let column : ColumnDefinition := ⟨.regular "c", .int, false, some (.null {}), {}⟩
    let storage : StorageFormat := ⟨.regular "columnar", .empty, {}⟩
    let table : Node := .statement
      (.createTable ⟨⟨none, .regular "t", {}⟩, .noCondition, [.column column], some storage, {}⟩)
    let shallow : Session := ⟨{}, some 2⟩
    let bare : Session := ⟨{}, none⟩
    shallow.copy table = .error ⟨.nullConstant, .tooDeep 2⟩ ∧
      bare.copy table = .error ⟨.storageFormat, .refused (.disabled .storageFormat)⟩ ∧
      (∃ before level culprit after, table.visits 0 = before ++ .enter level culprit :: after ∧
        (∀ earlier ∈ before, shallow.failure? earlier = none) ∧
        2 ≤ level ∧ culprit.kind = .nullConstant) ∧
      ∃ before level culprit after, table.visits 0 = before ++ .leave level culprit :: after ∧
        (∀ earlier ∈ before, bare.failure? earlier = none) ∧
        culprit.rebuild bare = .error (.disabled .storageFormat) ∧
        culprit.kind = .storageFormat := by
  intro column storage table shallow bare
  have construct {node : Node} (built : Constructed (fun _ => True) ⟨.full, none⟩ node)
      (parts : ∀ child ∈ node.children, Reachable (fun _ => True) child) :
      Reachable (fun _ => True) node := .construct built parts
  have name : TableName.build none (.regular "t") = .ok ⟨none, .regular "t", {}⟩ := rfl
  have withDefault : ColumnDefinition.build (.regular "c") .int false (some (.null {}))
      = .ok column := rfl
  have format : StorageFormat.build ⟨.full, none⟩ (.regular "columnar") .empty
      = .ok storage := rfl
  have whole : CreateTable.build ⟨none, .regular "t", {}⟩ .noCondition [.column column]
      (some storage) = .ok ⟨_, _, _, _, {}⟩ := rfl
  have reachable : Reachable (fun _ => True) table := by
    refine construct (.createTable whole) ?_
    refine List.forall_mem_cons.mpr ⟨.leaf {} (.tableName name) rfl, List.forall_mem_cons.mpr
      ⟨construct (.columnDefinition trivial withDefault) ?_, List.forall_mem_singleton.mpr ?_⟩⟩
    · exact List.forall_mem_singleton.mpr (.leaf {} .null rfl)
    · exact .leaf _ (.storageFormat format) rfl
  have tooDeep : shallow.copy table = .error ⟨.nullConstant, .tooDeep 2⟩ := rfl
  have disabled : bare.copy table
      = .error ⟨.storageFormat, .refused (.disabled .storageFormat)⟩ := rfl
  refine ⟨tooDeep, disabled, ?_, ?_⟩
  · obtain ⟨⟨before, visit, after, walk, passed, failure⟩, -⟩ :=
      copy_names_culprit reachable tooDeep
    cases visit with
    | enter level culprit =>
        obtain ⟨limit, given, reached, same, -⟩ := failure
        obtain rfl := Option.some.inj given
        exact ⟨before, level, culprit, after, walk, passed, reached,
          (congrArg CopyError.kind same).symm⟩
    | leave level culprit =>
        obtain ⟨refusal, -, -, same, -⟩ := failure
        cases congrArg CopyError.fault same
  · obtain ⟨⟨before, visit, after, walk, passed, failure⟩, -⟩ :=
      copy_names_culprit reachable disabled
    cases visit with
    | enter level culprit =>
        obtain ⟨limit, -, -, same, -⟩ := failure
        cases congrArg CopyError.fault same
    | leave level culprit =>
        obtain ⟨refusal, refused, -, same, -⟩ := failure
        obtain rfl := CopyFault.refused.inj (congrArg CopyError.fault same)
        exact ⟨before, level, culprit, after, walk, passed, refused,
          (congrArg CopyError.kind same).symm⟩

end DdlTree
