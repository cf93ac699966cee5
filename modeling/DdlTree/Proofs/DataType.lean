import DdlTree.Proofs.WellFormed

/-! # Accepted data types

Which tags and parameters make a data type, and which type they make. A parameter is taken as it was
given or not at all: what does not fit into its range is refused, and never cut to size.
-/

namespace DdlTree.DataType

/-- The type that a tag spells with the given parameters. A decimal without a scale has the scale
    zero. -/
inductive Spells : String → Option Int → Option Int → DataType → Prop where
  | plain {tag type} (named : plain.lookup tag = some type) : Spells tag none none type
  | varchar {length : Nat} (positive : 0 < length) (fits : length < UInt32.size) :
    Spells "VARCHAR" (some length) none (.varchar length)
  | char {length : Nat} (positive : 0 < length) (fits : length < UInt32.size) :
    Spells "CHAR" (some length) none (.char length)
  | decimal {precision scale : Nat} {given : Option Int} (positive : 0 < precision)
    (fits : precision < UInt32.size) (below : scale ≤ precision) (scaled : given.getD 0 = scale) :
    Spells "DECIMAL" (some precision) given (.decimal precision scale)

/-! ## Parameters -/

theorem positive_eq_ok {tag parameter : String} {given : Option Int} {value : Nat} :
    positive tag parameter given = .ok value ↔
      given = some (value : Int) ∧ 0 < value ∧ value < UInt32.size := by
  cases given with
  | none => simp [positive, refuse]
  | some number =>
      simp only [positive, refuse]
      split
      · simp only [Except.ok.injEq, Option.some.injEq]
        omega
      · simp only [reduceCtorEq, Option.some.injEq, false_iff]
        omega

theorem scaleOf_eq_ok {given : Option Int} {value : Nat} :
    scaleOf given = .ok value ↔ given.getD 0 = value ∧ value < UInt32.size := by
  cases given with
  | none =>
      simp only [scaleOf, Except.ok.injEq, Option.getD_none, UInt32.size]
      omega
  | some number =>
      simp only [scaleOf, refuse, Option.getD_some]
      split
      · simp only [Except.ok.injEq]
        omega
      · simp only [reduceCtorEq, false_iff]
        omega

theorem buildDecimal_eq_ok {precision scale : Nat} {type : DataType} :
    buildDecimal precision scale = .ok type ↔
      0 < precision ∧ scale ≤ precision ∧ type = .decimal precision scale := by
  simp only [buildDecimal, refuse, refuse_eq_ok, Except.ok.injEq]
  constructor
  · rintro ⟨allowed, rfl⟩
    exact ⟨by omega, by omega, rfl⟩
  · rintro ⟨positive, below, rfl⟩
    exact ⟨by omega, rfl⟩

theorem sized_eq_ok {tag : String} {make : Nat → DataType} {length scale : Option Int}
    {type : DataType} :
    sized tag make length scale = .ok type ↔
      scale = none ∧ ∃ size : Nat,
        (length = some (size : Int) ∧ 0 < size ∧ size < UInt32.size) ∧ make size = type := by
  simp only [sized, refuse, refuse_eq_ok, map_eq_ok, positive_eq_ok, Option.isSome_iff_ne_none,
    ne_eq, not_not]

/-! ## Types -/

theorem build_eq_ok {tag : String} {length scale : Option Int} {type : DataType} :
    build tag length scale = .ok type ↔ Spells tag length scale type := by
  constructor
  · intro built
    unfold build at built
    split at built
    · rename_i named
      obtain ⟨bare, same⟩ := refuse_eq_ok.mp built
      obtain rfl := Except.ok.inj same
      simp only [Bool.or_eq_true, Option.isSome_iff_ne_none, ne_eq, not_or, not_not] at bare
      obtain ⟨rfl, rfl⟩ := bare
      exact .plain named
    · split at built
      · obtain ⟨rfl, size, ⟨rfl, positive, fits⟩, rfl⟩ := sized_eq_ok.mp built
        exact .varchar positive fits
      · obtain ⟨rfl, size, ⟨rfl, positive, fits⟩, rfl⟩ := sized_eq_ok.mp built
        exact .char positive fits
      · simp only [bind_eq_ok, positive_eq_ok, scaleOf_eq_ok, buildDecimal_eq_ok] at built
        obtain ⟨precision, ⟨rfl, positive, fits⟩, scale, ⟨scaled, -⟩, -, below, rfl⟩ := built
        exact .decimal positive fits below scaled
      · simp [refuse] at built
  · intro spells
    cases spells with
    | plain named =>
        rw [build.eq_def, named]
        rfl
    | varchar positive fits | char positive fits =>
        exact sized_eq_ok.mpr ⟨rfl, _, ⟨rfl, positive, fits⟩, rfl⟩
    | decimal positive fits below scaled =>
        exact bind_ok (positive_eq_ok.mpr ⟨rfl, positive, fits⟩)
          (bind_ok (scaleOf_eq_ok.mpr ⟨scaled, Nat.lt_of_le_of_lt below fits⟩)
            (buildDecimal_eq_ok.mpr ⟨positive, below, rfl⟩))

theorem mem_plain {tag : String} {type : DataType} (named : plain.lookup tag = some type) :
    (tag, type) ∈ plain := by
  obtain ⟨before, after, split, -⟩ := List.lookup_eq_some_iff.mp named
  exact split ▸ List.mem_append_right _ List.mem_cons_self

theorem Spells.inRange {tag : String} {length scale : Option Int} {type : DataType}
    (spells : Spells tag length scale type) : type.InRange := by
  cases spells with
  | plain named =>
      have all : ∀ entry ∈ DataType.plain, entry.2.InRange := by simp [DataType.plain, InRange]
      exact all (tag, type) (mem_plain named)
  | varchar positive fits | char positive fits => exact ⟨positive, fits⟩
  | decimal positive fits below _ => exact ⟨positive, fits, below⟩

end DdlTree.DataType
