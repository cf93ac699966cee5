import Mathlib.Data.List.Forall2

/-! # Outcomes

When a computation that can be refused succeeds, read off from its steps.
-/

namespace DdlTree

variable {ε α β : Type}

@[simp] theorem isOk_ok (value : α) : (Except.ok value : Except ε α).isOk = true :=
  rfl

@[simp] theorem isOk_error (error : ε) : (Except.error error : Except ε α).isOk = false :=
  rfl

theorem isOk_iff_exists {result : Except ε α} :
    result.isOk ↔ ∃ value, result = .ok value := by
  cases result <;> simp

theorem ok_bind {value : α} {next : α → Except ε β} :
    (Except.ok value : Except ε α) >>= next = next value :=
  rfl

theorem error_bind {error : ε} {next : α → Except ε β} :
    (Except.error error : Except ε α) >>= next = .error error :=
  rfl

theorem map_bind {γ : Type} {first : Except ε α} {next : α → Except ε β} {f : β → γ} :
    (first >>= next).map f = first >>= fun value => (next value).map f := by
  cases first <;> rfl

theorem bind_map {γ : Type} {first : Except ε α} {f : α → β} {next : β → Except ε γ} :
    first.map f >>= next = first >>= fun value => next (f value) := by
  cases first <;> rfl

/-- What a map leaves as it is can be mapped again. -/
theorem bind_of_map_eq {first : Except ε α} {f : α → α} (same : first.map f = first)
    (next : α → Except ε β) : (first >>= fun value => next (f value)) = first >>= next := by
  rw [← bind_map, same]

theorem map_pure {value : α} {f : α → β} : (pure value : Except ε α).map f = pure (f value) :=
  rfl

theorem map_map {γ : Type} {first : Except ε α} {f : α → β} {g : β → γ} :
    (first.map f).map g = first.map fun value => g (f value) := by
  cases first <;> rfl

theorem map_ok {value : α} {f : α → β} : (Except.ok value : Except ε α).map f = .ok (f value) :=
  rfl

theorem map_error {error : ε} {f : α → β} :
    (Except.error error : Except ε α).map f = .error error :=
  rfl

theorem map_ite {condition : Prop} [Decidable condition] {first second : Except ε α} {f : α → β} :
    (if condition then first else second).map f
      = if condition then first.map f else second.map f :=
  apply_ite (Except.map f) condition first second

theorem bind_eq_ok {first : Except ε α} {next : α → Except ε β} {result : β} :
    (first >>= next) = .ok result ↔ ∃ value, first = .ok value ∧ next value = .ok result := by
  cases first <;> simp [bind, Except.bind]

theorem bind_ok {first : Except ε α} {next : α → Except ε β} {value : α} {result : β}
    (read : first = .ok value) (rest : next value = .ok result) :
    (first >>= next) = .ok result :=
  bind_eq_ok.mpr ⟨value, read, rest⟩

theorem andThen_eq_ok {first : Except ε Unit} {next : Unit → Except ε α} {result : α} :
    (first >>= next) = .ok result ↔ first = .ok () ∧ next () = .ok result := by
  rw [bind_eq_ok]
  exact ⟨fun ⟨(), steps⟩ => steps, fun steps => ⟨(), steps⟩⟩

theorem map_eq_ok {first : Except ε α} {f : α → β} {result : β} :
    first.map f = .ok result ↔ ∃ value, first = .ok value ∧ f value = result := by
  cases first <;> simp [Except.map]

theorem pure_eq_ok {value result : α} :
    (pure value : Except ε α) = .ok result ↔ value = result := by
  simp [pure, Except.pure]

/-- What is refused under a condition succeeds only without it. -/
theorem refuse_eq_ok {refused : Prop} [Decidable refused] {error : ε} {rest : Except ε α}
    {result : α} :
    (if refused then .error error else rest) = .ok result ↔ ¬refused ∧ rest = .ok result := by
  by_cases h : refused <;> simp [h]

theorem refuse_bind_eq_ok {refused : Prop} [Decidable refused] {error : ε} {next : β → Except ε α}
    {rest : Except ε α} {result : α} :
    (if refused then Except.error error >>= next else rest) = .ok result ↔
      ¬refused ∧ rest = .ok result :=
  refuse_eq_ok

/-- A list is mapped as a whole exactly if each of its items is. -/
theorem mapM_eq_ok {f : α → Except ε β} {items : List α} {results : List β} :
    items.mapM f = .ok results ↔
      List.Forall₂ (fun item result => f item = .ok result) items results := by
  induction items generalizing results with
  | nil =>
      rw [List.mapM_nil, pure_eq_ok, List.forall₂_nil_left_iff]
      exact eq_comm
  | cons item rest ih =>
      simp only [List.mapM_cons, bind_eq_ok, pure_eq_ok, List.forall₂_cons_left_iff]
      constructor
      · rintro ⟨first, head, others, tail, rfl⟩
        exact ⟨first, others, head, ih.mp tail, rfl⟩
      · rintro ⟨first, others, head, tail, rfl⟩
        exact ⟨first, head, others, ih.mpr tail, rfl⟩

theorem map_eq_map_ok {f : α → Except ε β} {items : List α} {results : List β}
    (mapped : items.mapM f = .ok results) : items.map f = results.map .ok := by
  have each : List.Forall₂ Eq (items.map f) (results.map .ok) := by
    rw [List.forall₂_map_left_iff, List.forall₂_map_right_iff]
    exact mapM_eq_ok.mp mapped
  rwa [List.forall₂_eq_eq_eq] at each

/-- A list whose items are written and read back is read back. -/
theorem mapM_map_eq_ok {write : β → α} {f : α → Except ε β} {items : List β}
    (undoes : ∀ item ∈ items, f (write item) = .ok item) : (items.map write).mapM f = .ok items :=
  mapM_eq_ok.mpr (List.forall₂_map_left_iff.mpr (List.forall₂_same.mpr undoes))

/-- What reads the items as written reads as before. -/
theorem mapM_map_congr {γ : Type} {write : α → γ} {f : α → Except ε β} {g : γ → Except ε β}
    (same : ∀ item, g (write item) = f item) (items : List α) :
    (items.map write).mapM g = items.mapM f := by
  rw [List.mapM_map]
  exact congrArg (items.mapM ·) (funext same)

/-- To map each result is to map the list of results. -/
theorem mapM_map_result {γ : Type} {f : α → Except ε β} {g : β → γ} (items : List α) :
    (items.mapM fun item => (f item).map g) = (items.mapM f).map (List.map g) := by
  induction items with
  | nil => rfl
  | cons item rest ih => simp only [List.mapM_cons, ih, bind_map, map_bind, map_pure, List.map_cons]

/-- To map the items first is to map the results, if it is so for each item. -/
theorem mapM_map_eq {γ δ : Type} {write : α → γ} {f : α → Except ε β} {g : γ → Except ε δ}
    {h : β → δ} (same : ∀ item, g (write item) = (f item).map h) (items : List α) :
    (items.map write).mapM g = (items.mapM f).map (List.map h) := by
  rw [← mapM_map_result, List.mapM_map]
  exact congrArg (items.mapM ·) (funext same)

theorem exists_of_mem_mapM {f : α → Except ε β} {items : List α} {results : List β}
    (mapped : items.mapM f = .ok results) {result : β} (mem : result ∈ results) :
    ∃ item ∈ items, f item = .ok result := by
  induction mapM_eq_ok.mp mapped with
  | nil => simp at mem
  | @cons item _ rest _ head tail ih =>
      rcases List.mem_cons.mp mem with rfl | mem
      · exact ⟨item, List.mem_cons_self, head⟩
      · obtain ⟨found, memRest, same⟩ := ih (mapM_eq_ok.mpr tail) mem
        exact ⟨found, List.mem_cons_of_mem _ memRest, same⟩

/-- What undoes reading an item undoes reading a list of items. -/
theorem eq_map_of_mapM_eq_ok {read : α → Except ε β} {write : β → α}
    (undoes : ∀ {item value}, read item = .ok value → item = write value) {items : List α}
    {values : List β} (reads : items.mapM read = .ok values) : items = values.map write := by
  induction mapM_eq_ok.mp reads with
  | nil => rfl
  | cons head _ ih => rw [List.map_cons, ← undoes head, ← ih (mapM_eq_ok.mpr ‹_›)]

end DdlTree
