import DdlTree.Proofs.Arguments

/-! # Parameters of data types

The parameters that data types accept, over all tags and numbers. What is accepted is held as it was
given, so a type can be built again from its own tag and numbers.
-/

namespace DdlTree

namespace DataType

/-- The tags in the table are the names of the types without parameters; one of them has two. -/
theorem lookup_plain_isSome {tag : String} :
    (plain.lookup tag).isSome ↔
      tag = "INTEGER" ∨ ∃ type : DataType, type.parameters = [] ∧ type.keyword = tag := by
  constructor
  · intro found
    obtain ⟨type, named⟩ := Option.isSome_iff_exists.mp found
    have bare : ∀ entry ∈ plain,
        entry.1 = "INTEGER" ∨ entry.2.parameters = [] ∧ entry.2.keyword = entry.1 := by decide
    exact (bare (tag, type) (mem_plain named)).imp_right fun names => ⟨type, names⟩
  · rintro (rfl | ⟨type, bare, rfl⟩)
    · rfl
    · cases type with
      | decimal | varchar | char => cases bare
      | _ => rfl

/-- When a tag and parameters spell a type: the tag stands alone, or has a length in the range of 32
    bits, or a precision in this range and a scale up to it. -/
theorem exists_spells {tag : String} {length scale : Option Int} :
    (∃ type, Spells tag length scale type) ↔
      ((plain.lookup tag).isSome ∧ length = none ∧ scale = none) ∨
      ((tag = "VARCHAR" ∨ tag = "CHAR") ∧ scale = none ∧
        ∃ n ∈ length, 1 ≤ n ∧ n < UInt32.size) ∨
      (tag = "DECIMAL" ∧
        ∃ n ∈ length, 1 ≤ n ∧ n < UInt32.size ∧ ∀ s ∈ scale, 0 ≤ s ∧ s ≤ n) := by
  constructor
  · rintro ⟨type, spells⟩
    cases spells with
    | plain named => exact .inl ⟨Option.isSome_of_eq_some named, rfl, rfl⟩
    | varchar positive fits => exact .inr (.inl ⟨.inl rfl, rfl, _, rfl, by omega, by omega⟩)
    | char positive fits => exact .inr (.inl ⟨.inr rfl, rfl, _, rfl, by omega, by omega⟩)
    | decimal positive fits below scaled =>
        refine .inr (.inr ⟨rfl, _, rfl, by omega, by omega, fun s given => ?_⟩)
        rw [Option.mem_def.mp given, Option.getD_some] at scaled
        omega
  · rintro (⟨named, rfl, rfl⟩ | ⟨sized, rfl, n, given, positive, fits⟩ |
      ⟨rfl, n, given, positive, fits, below⟩)
    · obtain ⟨type, named⟩ := Option.isSome_iff_exists.mp named
      exact ⟨type, .plain named⟩
    · obtain rfl := Option.mem_def.mp given
      obtain ⟨length, rfl⟩ := Int.eq_ofNat_of_zero_le (show 0 ≤ n by omega)
      rcases sized with rfl | rfl
      · exact ⟨.varchar length, .varchar (by omega) (by omega)⟩
      · exact ⟨.char length, .char (by omega) (by omega)⟩
    · obtain rfl := Option.mem_def.mp given
      obtain ⟨precision, rfl⟩ := Int.eq_ofNat_of_zero_le (show 0 ≤ n by omega)
      have range : 0 ≤ scale.getD 0 ∧ scale.getD 0 ≤ precision := by
        cases scale with
        | none => simp
        | some s => exact below s rfl
      obtain ⟨value, scaled⟩ := Int.eq_ofNat_of_zero_le range.1
      exact ⟨.decimal precision value, .decimal (by omega) (by omega) (by omega) scaled⟩

/-- A type holds the tag and the numbers that spell it. -/
theorem Spells.holds {tag : String} {length scale : Option Int} {type : DataType}
    (spells : Spells tag length scale type) :
    (type.keyword = tag ∨ tag = "INTEGER" ∧ type = .int) ∧
      type.length?.map Nat.cast = length ∧
      type.scale?.map Nat.cast = if tag = "DECIMAL" then some (scale.getD 0) else none := by
  cases spells with
  | plain named =>
      have bare : ∀ entry ∈ DataType.plain,
          (entry.2.keyword = entry.1 ∨ entry.1 = "INTEGER" ∧ entry.2 = .int) ∧
            entry.1 ≠ "DECIMAL" ∧ entry.2.length? = none ∧ entry.2.scale? = none := by decide
      obtain ⟨names, notDecimal, noLength, noScale⟩ := bare (tag, type) (mem_plain named)
      rw [noLength, noScale, if_neg notDecimal]
      exact ⟨names, rfl, rfl⟩
  | varchar | char => exact ⟨.inl rfl, rfl, rfl⟩
  | decimal positive fits below scaled =>
      rw [scaled]
      exact ⟨.inl rfl, rfl, rfl⟩

/-- Two numbers of 32 bits make a decimal type on their own as they do behind its tag. -/
theorem build_decimal {precision scale : Nat} (precisionFits : precision < UInt32.size)
    (scaleFits : scale < UInt32.size) (positive : 0 < precision) :
    build "DECIMAL" (some precision) (some scale) = buildDecimal precision scale := by
  have readPrecision : DataType.positive "DECIMAL" "precision" (some precision) = .ok precision :=
    positive_eq_ok.mpr ⟨rfl, positive, precisionFits⟩
  have readScale : scaleOf (some scale) = .ok scale := scaleOf_eq_ok.mpr ⟨rfl, scaleFits⟩
  have steps : build "DECIMAL" (some precision) (some scale)
      = (DataType.positive "DECIMAL" "precision" (some precision) >>= fun precision =>
          scaleOf (some scale) >>= fun scale => buildDecimal precision scale) := rfl
  rw [steps, readPrecision, ok_bind, readScale, ok_bind]

theorem buildDecimal_eq_ok_iff {precision scale : Nat} (precisionFits : precision < UInt32.size)
    (scaleFits : scale < UInt32.size) {type : DataType} :
    buildDecimal precision scale = .ok type ↔
      build "DECIMAL" (some precision) (some scale) = .ok type := by
  cases precision with
  | zero => exact iff_of_false nofun nofun
  | succ n => rw [build_decimal precisionFits scaleFits n.succ_pos]

end DataType

/-- Data types are accepted exactly within their ranges, and nothing is cut to size. A type without
    parameters takes none; a length lies between one and the greatest number of 32 bits, and so does
    a precision, with a scale between zero and the precision. An accepted type holds the numbers as
    they were given, a missing scale as zero, and is built again from its own tag and numbers.
    Two numbers of 32 bits make the same decimal type with the tag and without it, and are refused
    alike; only for a precision of zero the two refusals are worded differently. -/
theorem data_types_within_range (tag : String) (length scale : Option Int) :
    ((DataType.build tag length scale).isOk ↔
      ((tag = "INTEGER" ∨ ∃ type : DataType, type.parameters = [] ∧ type.keyword = tag) ∧
        length = none ∧ scale = none) ∨
      ((tag = "VARCHAR" ∨ tag = "CHAR") ∧ scale = none ∧
        ∃ n ∈ length, 1 ≤ n ∧ n < UInt32.size) ∨
      (tag = "DECIMAL" ∧
        ∃ n ∈ length, 1 ≤ n ∧ n < UInt32.size ∧ ∀ s ∈ scale, 0 ≤ s ∧ s ≤ n)) ∧
    (∀ type, DataType.build tag length scale = .ok type →
      (type.keyword = tag ∨ tag = "INTEGER" ∧ type = .int) ∧
      type.length?.map Nat.cast = length ∧
      type.scale?.map Nat.cast = (if tag = "DECIMAL" then some (scale.getD 0) else none) ∧
      DataType.build type.keyword (type.length?.map Nat.cast) (type.scale?.map Nat.cast)
        = .ok type) ∧
    ∀ precision scale : UInt32,
      let alone := DataType.buildDecimal precision.toNat scale.toNat
      let tagged := DataType.build "DECIMAL" (some precision.toNat) (some scale.toNat)
      (∀ type, alone = .ok type ↔ tagged = .ok type) ∧ (precision ≠ 0 → alone = tagged) := by
  refine ⟨?_, fun type built => ?_, ?_⟩
  · simp only [isOk_iff_exists, DataType.build_eq_ok]
    rw [DataType.exists_spells, DataType.lookup_plain_isSome]
  · have spells := DataType.build_eq_ok.mp built
    obtain ⟨names, sameLength, sameScale⟩ := spells.holds
    exact ⟨names, sameLength, sameScale, DataType.build_keyword spells.inRange⟩
  · intro precision scale alone tagged
    refine ⟨fun type => ?_, fun nonzero => ?_⟩
    · exact DataType.buildDecimal_eq_ok_iff precision.toNat_lt scale.toNat_lt
    · have positive : 0 < precision.toNat :=
        Nat.pos_of_ne_zero fun zero => nonzero (UInt32.toNat_inj.mp zero)
      exact (DataType.build_decimal precision.toNat_lt scale.toNat_lt positive).symm

/-- A decimal without a scale, a length whose lowest 32 bits are in range while it is not, and a
    decimal that is built in both ways. -/
theorem data_types_within_range_decimal :
    DataType.build "DECIMAL" (some 10) none = .ok (.decimal 10 0) ∧
      (DataType.decimal 10 0).scale?.map Nat.cast = some (0 : Int) ∧
      ¬(DataType.build "VARCHAR" (some 4294967304) none).isOk ∧
      DataType.buildDecimal 10 2 = DataType.build "DECIMAL" (some 10) (some 2) := by
  have built : DataType.build "DECIMAL" (some 10) none = .ok (.decimal 10 0) := rfl
  have held := (data_types_within_range "DECIMAL" (some 10) none).2.1 _ built
  refine ⟨built, held.2.2.1, fun accepted => ?_, ?_⟩
  · have ranges := (data_types_within_range "VARCHAR" (some 4294967304) none).1.mp accepted
    simp at ranges
  · exact ((data_types_within_range "DECIMAL" none none).2.2 10 2).2 (by decide)

end DdlTree
