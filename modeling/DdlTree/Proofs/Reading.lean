import DdlTree.Proofs.Blame
import DdlTree.Proofs.Schema

/-! # Reading arguments

Arguments are read from left to right, and reading stops at the first one that is refused. So what
is refused for its shape is the first misfit, and what is read as a whole has none.
-/

namespace DdlTree

/-! ## Kinds of nodes -/

theorem Node.isSome_tableName? (node : Node) :
    node.tableName?.isSome = (node.kind == .tableName) := by
  cases node with
  | expr e => cases e <;> rfl
  | statement s => cases s <;> rfl
  | _ => rfl

theorem Node.isSome_columnList? (node : Node) :
    node.columnList?.isSome = (node.kind == .columnList) := by
  cases node with
  | expr e => cases e <;> rfl
  | statement s => cases s <;> rfl
  | _ => rfl

theorem Node.isSome_indexColumn? (node : Node) :
    node.indexColumn?.isSome = (node.kind == .indexColumn) := by
  cases node with
  | expr e => cases e <;> rfl
  | statement s => cases s <;> rfl
  | _ => rfl

theorem Node.isSome_indexColumnList? (node : Node) :
    node.indexColumnList?.isSome = (node.kind == .indexColumnList) := by
  cases node with
  | expr e => cases e <;> rfl
  | statement s => cases s <;> rfl
  | _ => rfl

theorem Node.isSome_storageFormat? (node : Node) :
    node.storageFormat?.isSome = (node.kind == .storageFormat) := by
  cases node with
  | expr e => cases e <;> rfl
  | statement s => cases s <;> rfl
  | _ => rfl

/-! ## Misfits -/

section Misfits

variable {position : Nat} {slot : Slot} {slots : List Slot} {argument : Argument}
  {arguments : List Argument}

theorem misfit?_of_admits (admits : slot.admits argument) :
    misfit? position (slot :: slots) (argument :: arguments)
      = misfit? (position + 1) slots arguments := by
  rw [misfit?, if_pos admits]

theorem misfit?_of_not_admits (misfit : slot.admits argument = false) :
    misfit? position (slot :: slots) (argument :: arguments) = some (position, slot.field) := by
  rw [misfit?, if_neg (by simp [misfit])]

/-- Positions are counted from wherever the first argument stands. -/
theorem misfit?_succ (position : Nat) (slots : List Slot) (arguments : List Argument) :
    misfit? (position + 1) slots arguments
      = (misfit? position slots arguments).map fun place => (place.1 + 1, place.2) := by
  induction slots generalizing position arguments with
  | nil => cases arguments <;> rfl
  | cons slot rest ih =>
      cases arguments with
      | nil => rfl
      | cons argument others =>
          cases admits : slot.admits argument with
          | true => rw [misfit?_of_admits admits, misfit?_of_admits admits, ih]
          | false =>
              rw [misfit?_of_not_admits admits, misfit?_of_not_admits admits, Option.map_some]

theorem le_of_misfit? {place : Nat × String}
    (found : misfit? position slots arguments = some place) : position ≤ place.1 := by
  induction slots generalizing position arguments with
  | nil => cases arguments <;> simp [misfit?] at found
  | cons slot rest ih =>
      cases arguments with
      | nil => simp [misfit?] at found
      | cons argument others =>
          cases admits : slot.admits argument with
          | true =>
              rw [misfit?_of_admits admits] at found
              exact Nat.le_trans (Nat.le_succ _) (ih found)
          | false =>
              rw [misfit?_of_not_admits admits, Option.some.injEq] at found
              exact found ▸ Nat.le_refl _

end Misfits

/-! ## Steps that read arguments -/

/-- What a step comes to that reads the given arguments, the first of them at a position, for slots.
    It yields a value only if all of them fit; what it is refused for concerns the kind; and if that
    is an argument, it is the first misfit or, when all of them fit, a place inside of one. -/
structure Takes {α : Type} (session : Session) (kind : NodeKind) (inside : Nat × String → Prop)
    (position : Nat) (slots : List Slot) (arguments : List Argument)
    (step : Except BuildError α) : Prop where
  fits : ∀ value, step = .ok value → misfit? position slots arguments = none
  concerns : ∀ error, step = .error error → error.Concerns session kind
  placed : ∀ error place, step = .error error → error.place? = some place →
    misfit? position slots arguments = some place ∨
      misfit? position slots arguments = none ∧ inside place

namespace Takes

variable {α β : Type} {session : Session} {kind : NodeKind} {inside : Nat × String → Prop}
  {position : Nat} {slot : Slot} {slots : List Slot} {argument : Argument}
  {arguments : List Argument} {field : String}

/-- A step that reads no arguments. -/
theorem of_blames {step : Except BuildError α} (blames : Blames session kind step) :
    Takes session kind inside position [] [] step where
  fits _ _ := rfl
  concerns error refused := (blames error refused).1
  placed error place refused placed := by
    rw [(blames error refused).2] at placed
    cases placed

/-- A refusal that names no argument, whatever was read. -/
theorem unplaced {fault : Fault} (unplaced : (BuildError.malformed kind fault).place? = none) :
    Takes session kind inside position slots arguments
      (.error (.malformed kind fault) : Except BuildError α) where
  fits _ built := nomatch built
  concerns error refused := (Blames.malformed unplaced error refused).1
  placed error place refused placed := by
    obtain rfl := Except.error.inj refused
    rw [unplaced] at placed
    cases placed

theorem accept {value : α} (admits : slot.admits argument) :
    Takes session kind inside position [slot] [argument] (.ok value : Except BuildError α) where
  fits _ _ := misfit?_of_admits admits
  concerns _ refused := nomatch refused
  placed _ _ refused := nomatch refused

/-- A misfit, refused at its place. -/
theorem refuse {expected : Shape} {nullable : Bool} {found : Argument}
    (misfit : slot.admits argument = false) (same : slot.field = field) :
    Takes session kind inside position [slot] [argument]
      (Place.refuse ⟨kind, position, field⟩ expected nullable found : Except BuildError α) where
  fits _ built := nomatch built
  concerns error refused := by
    obtain rfl := Except.error.inj refused
    rfl
  placed error place refused placed := by
    obtain rfl := Except.error.inj refused
    obtain rfl := Option.some.inj placed
    exact .inl (same ▸ misfit?_of_not_admits misfit)

/-- One argument is read, and then the others, if it fits. -/
theorem readOf {first : Except BuildError α} {next : α → Except BuildError β}
    (one : Takes session kind (fun _ => False) position [slot] [argument] first)
    (rest : ∀ value, first = .ok value →
      Takes session kind inside (position + 1) slots arguments (next value)) :
    Takes session kind inside position (slot :: slots) (argument :: arguments)
      (first >>= next) := by
  cases first with
  | error refusal =>
      refine ⟨fun _ built => (nomatch built), fun error refused => ?_,
        fun error place refused placed => ?_⟩
      · exact one.concerns error (congrArg _ (Except.error.inj refused))
      · refine .inl ?_
        obtain found | ⟨-, ⟨⟩⟩ :=
          one.placed error place (congrArg _ (Except.error.inj refused)) placed
        cases admits : slot.admits argument with
        | true =>
            rw [misfit?_of_admits admits] at found
            cases found
        | false =>
            rw [misfit?_of_not_admits admits] at found ⊢
            exact found
  | ok value =>
      have admits : slot.admits argument := by
        by_contra misfit
        have found := one.fits value rfl
        rw [misfit?_of_not_admits (by simpa using misfit)] at found
        cases found
      have others := rest value rfl
      refine ⟨fun result built => ?_, others.concerns, fun error place refused placed => ?_⟩
      · rw [misfit?_of_admits admits]
        exact others.fits result built
      · rw [misfit?_of_admits admits]
        exact others.placed error place refused placed

theorem read {first : Except BuildError α} {next : α → Except BuildError β}
    (one : Takes session kind (fun _ => False) position [slot] [argument] first)
    (rest : ∀ value, Takes session kind inside (position + 1) slots arguments (next value)) :
    Takes session kind inside position (slot :: slots) (argument :: arguments) (first >>= next) :=
  one.readOf fun value _ => rest value

/-- What was read so far is put together before the next argument is read. -/
theorem check {first : Except BuildError α} {next : α → Except BuildError β}
    (blames : Blames session kind first)
    (rest : ∀ value, Takes session kind inside position slots arguments (next value)) :
    Takes session kind inside position slots arguments (first >>= next) := by
  cases first with
  | error refusal =>
      refine ⟨fun _ built => (nomatch built), fun error refused => ?_,
        fun error place refused placed => ?_⟩
      · exact (blames error (congrArg _ (Except.error.inj refused))).1
      · rw [(blames error (congrArg _ (Except.error.inj refused))).2] at placed
        cases placed
  | ok value => exact rest value

/-- What was read is put together after the last argument. -/
theorem bind {step : Except BuildError α} {next : α → Except BuildError β}
    (reads : Takes session kind inside position slots arguments step)
    (rest : ∀ value, Blames session kind (next value)) :
    Takes session kind inside position slots arguments (step >>= next) := by
  cases step with
  | error refusal =>
      exact ⟨fun _ built => (nomatch built),
        fun error refused => reads.concerns error (congrArg _ (Except.error.inj refused)),
        fun error place refused => reads.placed error place (congrArg _ (Except.error.inj refused))⟩
  | ok value =>
      refine ⟨fun _ _ => reads.fits value rfl, fun error refused => (rest value error refused).1,
        fun error place refused placed => ?_⟩
      rw [(rest value error refused).2] at placed
      cases placed

theorem map {step : Except BuildError α} {f : α → β}
    (reads : Takes session kind inside position slots arguments step) :
    Takes session kind inside position slots arguments (step.map f) :=
  reads.bind fun value => .ok (f value)

/-- Each item of an argument is read by itself. -/
theorem mapM {f : β → Except BuildError α} {items : List β}
    (each : ∀ item ∈ items, Takes session kind inside position [] [] (f item)) :
    Takes session kind inside position [] [] (items.mapM f) := by
  induction items with
  | nil => exact of_blames (.pure [])
  | cons item rest ih =>
      rw [List.mapM_cons]
      obtain ⟨-, concerns, placed⟩ := each item List.mem_cons_self
      have others := ih fun other mem => each other (List.mem_cons_of_mem _ mem)
      cases first : f item with
      | error refusal =>
          have same {error : BuildError}
              (refused : (.error refusal : Except BuildError (List α)) = .error error) :
              f item = .error error := first.trans (congrArg _ (Except.error.inj refused))
          exact ⟨fun _ _ => rfl, fun error refused => concerns error (same refused),
            fun error place refused => placed error place (same refused)⟩
      | ok value => exact others.map

/-! ### Readers -/

theorem bool (argument : Argument) :
    Takes session kind inside position [.required field .bool] [argument]
      (Place.bool ⟨kind, position, field⟩ argument) := by
  cases argument with
  | bool value => exact accept rfl
  | _ => exact refuse rfl rfl

theorem int (argument : Argument) :
    Takes session kind inside position [.required field .int] [argument]
      (Place.int ⟨kind, position, field⟩ argument) := by
  cases argument with
  | int value => exact accept rfl
  | _ => exact refuse rfl rfl

theorem int? (argument : Argument) :
    Takes session kind inside position [.optional field .int] [argument]
      (Place.int? ⟨kind, position, field⟩ argument) := by
  cases argument with
  | null => exact accept rfl
  | int value => exact accept rfl
  | _ => exact refuse rfl rfl

theorem text (argument : Argument) :
    Takes session kind inside position [.required field .text] [argument]
      (Place.text ⟨kind, position, field⟩ argument) := by
  cases argument with
  | text value => exact accept rfl
  | _ => exact refuse rfl rfl

theorem textOrInt (argument : Argument) :
    Takes session kind inside position [.required field .textOrInt] [argument]
      (Place.textOrInt ⟨kind, position, field⟩ argument) := by
  cases argument with
  | text value => exact accept rfl
  | int value => exact accept rfl
  | _ => exact refuse rfl rfl

theorem identifier (argument : Argument) :
    Takes session kind inside position [.required field .identifier] [argument]
      (Place.identifier ⟨kind, position, field⟩ argument) := by
  cases argument with
  | text name => exact accept rfl
  | delimited name => exact accept rfl
  | _ => exact refuse rfl rfl

theorem identifier? (argument : Argument) :
    Takes session kind inside position [.optional field .identifier] [argument]
      (Place.identifier? ⟨kind, position, field⟩ argument) := by
  cases argument with
  | null => exact accept rfl
  | text name => exact accept rfl
  | delimited name => exact accept rfl
  | _ => exact refuse rfl rfl

theorem word (argument : Argument) :
    Takes session kind inside position [.required field .tag] [argument]
      (Place.word ⟨kind, position, field⟩ argument) := by
  cases argument with
  | tag word => exact accept rfl
  | _ => exact refuse rfl rfl

theorem meaning {vocabulary : Vocabulary α} {word : String} (admits : slot.admits argument) :
    Takes session kind inside position [slot] [argument]
      (Place.meaning ⟨kind, position, field⟩ vocabulary word) := by
  rw [Place.meaning]
  split
  · exact accept admits
  · exact unplaced rfl

theorem tag {vocabulary : Vocabulary α} (argument : Argument) :
    Takes session kind inside position [.required field .tag] [argument]
      (Place.tag ⟨kind, position, field⟩ vocabulary argument) := by
  cases argument with
  | tag word => exact meaning rfl
  | _ => exact refuse rfl rfl

theorem tag? {vocabulary : Vocabulary α} (argument : Argument) :
    Takes session kind inside position [.optional field .tag] [argument]
      (Place.tag? ⟨kind, position, field⟩ vocabulary argument) := by
  cases argument with
  | null => exact accept rfl
  | tag word => exact (meaning rfl).map
  | _ => exact refuse rfl rfl

theorem existence (argument : Argument) :
    Takes session kind inside position [.optional field .tag] [argument]
      (Place.existence ⟨kind, position, field⟩ argument) :=
  (tag? argument).map

theorem node {nodeKind : NodeKind} {get? : Node → Option α}
    (gets : ∀ node, (get? node).isSome = (node.kind == nodeKind)) (argument : Argument) :
    Takes session kind inside position [.required field (.node nodeKind)] [argument]
      (Place.node ⟨kind, position, field⟩ nodeKind get? argument) := by
  cases argument with
  | node part =>
      have admits : (Slot.required field (.node nodeKind)).admits (.node part)
          = (get? part).isSome := (gets part).symm
      rw [Place.node]
      cases got : get? part with
      | none => exact refuse (by rw [admits, got]; rfl) rfl
      | some value => exact accept (by rw [admits, got]; rfl)
  | _ => exact refuse rfl rfl

theorem node? {nodeKind : NodeKind} {get? : Node → Option α}
    (gets : ∀ node, (get? node).isSome = (node.kind == nodeKind)) (argument : Argument) :
    Takes session kind inside position [.optional field (.node nodeKind)] [argument]
      (Place.node? ⟨kind, position, field⟩ nodeKind get? argument) := by
  cases argument with
  | null => exact accept rfl
  | node part =>
      have reads : Takes session kind inside position [.required field (.node nodeKind)]
          [.node part] ((Place.node ⟨kind, position, field⟩ nodeKind get? (.node part)).map some) :=
        (node gets (.node part)).map
      exact ⟨reads.fits, reads.concerns, reads.placed⟩
  | _ => exact refuse rfl rfl

theorem value (argument : Argument) :
    Takes session kind inside position [.required field .value] [argument]
      (Place.value ⟨kind, position, field⟩ argument) := by
  cases argument with
  | node part =>
      cases part with
      | expr e => exact accept rfl
      | _ => exact refuse rfl rfl
  | _ => exact refuse rfl rfl

theorem value? (argument : Argument) :
    Takes session kind inside position [.optional field .value] [argument]
      (Place.value? ⟨kind, position, field⟩ argument) := by
  cases argument with
  | null => exact accept rfl
  | node part =>
      cases part with
      | expr e => exact accept rfl
      | _ => exact refuse rfl rfl
  | _ => exact refuse rfl rfl

theorem nodes (argument : Argument) :
    Takes session kind inside position [.required field .nodes] [argument]
      (Place.nodes ⟨kind, position, field⟩ argument) := by
  cases argument with
  | nodes nodes => exact accept rfl
  | _ => exact refuse rfl rfl

theorem options (argument : Argument) :
    Takes session kind inside position [.optional field .options] [argument]
      (Place.options ⟨kind, position, field⟩ argument) := by
  cases argument with
  | null => exact accept rfl
  | options bag => exact accept rfl
  | _ => exact refuse rfl rfl

theorem action (argument : Argument) :
    Takes session kind inside position [.required field .int] [argument]
      (Place.action ⟨kind, position, field⟩ argument) := by
  refine (int argument).read fun code => of_blames ?_
  split
  · exact .pure _
  · exact .malformed rfl

/-- Nodes of one kind, each of them read where their list stands. -/
theorem nodesOf {nodeKind : NodeKind} {get? : Node → Option α}
    (gets : ∀ node, (get? node).isSome = (node.kind == nodeKind)) (nodes : List Node) :
    Takes session kind inside position [{ field, shape := .nodes, each := some nodeKind }]
      [.nodes nodes]
      (nodes.mapM fun node => Place.node ⟨kind, position, field⟩ nodeKind get? (.node node)) := by
  induction nodes with
  | nil => exact accept rfl
  | cons node rest ih =>
      rw [List.mapM_cons, Place.node]
      have same := gets node
      cases got : get? node with
      | none =>
          rw [got, Option.isSome_none] at same
          refine refuse ?_ rfl
          simp [Slot.admits, Shape.admits, ← same]
      | some value =>
          rw [got, Option.isSome_some] at same
          have skipped : misfit? position [{ field, shape := .nodes, each := some nodeKind }]
              [.nodes (node :: rest)]
              = misfit? position [{ field, shape := .nodes, each := some nodeKind }]
                [.nodes rest] := by
            simp [misfit?, Slot.admits, Shape.admits, ← same]
          obtain ⟨fits, concerns, placed⟩ := ih.map
          exact ⟨skipped ▸ fits, concerns, skipped ▸ placed⟩

end Takes

end DdlTree
