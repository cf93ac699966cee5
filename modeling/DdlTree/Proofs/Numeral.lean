import DdlTree.Expr.Numeral
import Mathlib.Data.List.Basic
import Mathlib.Data.List.TakeWhile

/-! # Facts about numeric literals

The parts of a numeric literal, read off the cuts that find them; from these, which characters it is
made of and what it can start with. Integers in decimal digits are numeric literals, and the digits
of a natural number tell the number.
-/

namespace DdlTree.Numeral

/-- Whether a character can stand in a numeric literal. -/
def inNumeral (c : Char) : Bool :=
  c.isDigit || ['.', 'e', 'E', '+', '-'].contains c

theorem inNumeral_of_isDigit {c : Char} (digit : c.isDigit) : inNumeral c := by
  rw [inNumeral, digit, Bool.true_or]

theorem inNumeral_of_marksExponent {c : Char} (marks : marksExponent c) : inNumeral c := by
  rw [marksExponent, Bool.or_eq_true, beq_iff_eq, beq_iff_eq] at marks
  rcases marks with rfl | rfl <;> rfl

/-! ## Cuts -/

theorem cut_of_forall_not {mark : Char → Bool} {cs : List Char} (unmarked : ∀ c ∈ cs, !mark c) :
    cut mark cs = (cs, none) := by
  rw [cut, List.takeWhile_eq_self_iff.mpr unmarked, List.dropWhile_eq_nil_iff.mpr unmarked,
    List.tail?_nil]

theorem cut_append_cons {mark : Char → Bool} {before after : List Char} {c : Char}
    (unmarked : ∀ d ∈ before, !mark d) (marked : mark c) :
    cut mark (before ++ c :: after) = (before, some after) := by
  rw [cut, List.takeWhile_append_of_pos unmarked, List.dropWhile_append_of_pos unmarked]
  simp [marked]

/-- A text holds no character of some kind, or is parted by the first one. -/
theorem forall_not_or_eq_append_cons (mark : Char → Bool) (cs : List Char) :
    (∀ c ∈ cs, !mark c) ∨
      ∃ before c after, cs = before ++ c :: after ∧ (∀ d ∈ before, !mark d) ∧ mark c := by
  cases found : cs.find? mark with
  | none => exact .inl fun c mem => by simpa using List.find?_eq_none.mp found c mem
  | some c =>
      obtain ⟨marked, before, after, split, unmarked⟩ := List.find?_eq_some_iff_append.mp found
      exact .inr ⟨before, c, after, split, unmarked, marked⟩

/-! ## Parts -/

private theorem not_dot_of_isDigit {cs : List Char} (digits : ∀ c ∈ cs, c.isDigit) :
    ∀ c ∈ cs, !(c == '.') := by
  intro c mem
  have notDot : c ≠ '.' := by
    rintro rfl
    exact absurd (digits '.' mem) (by decide)
  simpa using notDot

/-- A mantissa is digits, or digits around a dot; on one side of the dot there may be none. -/
theorem isMantissa_iff {cs : List Char} :
    isMantissa cs ↔
      (cs ≠ [] ∧ ∀ c ∈ cs, c.isDigit) ∨
      ∃ whole fraction, cs = whole ++ '.' :: fraction ∧ (whole ≠ [] ∨ fraction ≠ []) ∧
        (∀ c ∈ whole, c.isDigit) ∧ ∀ c ∈ fraction, c.isDigit := by
  have parts (whole fraction : List Char) :
      (!(whole.isEmpty && fraction.isEmpty) && whole.all Char.isDigit && fraction.all Char.isDigit)
        ↔ (whole ≠ [] ∨ fraction ≠ []) ∧ (∀ c ∈ whole, c.isDigit) ∧ ∀ c ∈ fraction, c.isDigit := by
    simp [and_assoc, imp_iff_not_or]
  constructor
  · intro mantissa
    rcases forall_not_or_eq_append_cons (· == '.') cs with
      noDot | ⟨whole, c, fraction, rfl, noDot, dot⟩
    · rw [isMantissa, cut_of_forall_not noDot] at mantissa
      exact .inl (by simpa using (parts cs []).mp mantissa)
    · rw [isMantissa, cut_append_cons noDot dot] at mantissa
      obtain rfl := beq_iff_eq.mp dot
      exact .inr ⟨whole, fraction, rfl, (parts whole fraction).mp mantissa⟩
  · rintro (⟨nonempty, digits⟩ | ⟨whole, fraction, rfl, nonempty, digits⟩)
    · rw [isMantissa, cut_of_forall_not (not_dot_of_isDigit digits)]
      exact (parts cs []).mpr ⟨.inl nonempty, digits, nofun⟩
    · rw [isMantissa, cut_append_cons (not_dot_of_isDigit digits.1) (beq_self_eq_true '.')]
      exact (parts whole fraction).mpr ⟨nonempty, digits⟩

theorem eq_dropSign_or_eq_cons (cs : List Char) :
    cs = dropSign cs ∨ cs = '+' :: dropSign cs ∨ cs = '-' :: dropSign cs := by
  unfold dropSign
  split <;> simp

theorem dropSign_of_isDigit {c : Char} (digit : c.isDigit) (cs : List Char) :
    dropSign (c :: cs) = c :: cs := by
  unfold dropSign
  split
  · rename_i sign
    exact absurd ((List.cons.inj sign).1 ▸ digit) (by decide)
  · rename_i sign
    exact absurd ((List.cons.inj sign).1 ▸ digit) (by decide)
  · rfl

/-- An exponent is digits, at least one, alone or behind a sign. -/
theorem isExponent_iff {cs : List Char} :
    isExponent cs ↔
      ∃ digits, (cs = digits ∨ cs = '+' :: digits ∨ cs = '-' :: digits) ∧
        digits ≠ [] ∧ ∀ c ∈ digits, c.isDigit := by
  have unsigned : isExponent cs ↔ dropSign cs ≠ [] ∧ ∀ c ∈ dropSign cs, c.isDigit := by
    simp [isExponent]
  rw [unsigned]
  constructor
  · exact fun exponent => ⟨dropSign cs, eq_dropSign_or_eq_cons cs, exponent⟩
  · rintro ⟨digits, rfl | rfl | rfl, nonempty, digit⟩
    · obtain ⟨c, rest, rfl⟩ := List.exists_cons_of_ne_nil nonempty
      rw [dropSign_of_isDigit (digit c List.mem_cons_self)]
      exact ⟨nonempty, digit⟩
    · exact ⟨nonempty, digit⟩
    · exact ⟨nonempty, digit⟩

/-- No character of a mantissa marks an exponent. -/
private theorem not_marksExponent_of_isMantissa {cs : List Char} (mantissa : isMantissa cs) :
    ∀ c ∈ cs, !marksExponent c := by
  have ofDigit {c : Char} (digit : c.isDigit) : !marksExponent c := by
    have notMark : ¬(c = 'e' ∨ c = 'E') := by
      rintro (rfl | rfl) <;> exact absurd digit (by decide)
    simpa [marksExponent] using notMark
  rcases isMantissa_iff.mp mantissa with ⟨-, digits⟩ | ⟨whole, fraction, rfl, -, digits, further⟩
  · exact fun c mem => ofDigit (digits c mem)
  · refine List.forall_mem_append.mpr ⟨fun c mem => ofDigit (digits c mem), ?_⟩
    exact List.forall_mem_cons.mpr ⟨rfl, fun c mem => ofDigit (further c mem)⟩

/-- A numeric literal without a sign is a mantissa, alone or before an exponent and its mark. -/
theorem isUnsigned_iff {cs : List Char} :
    isUnsigned cs ↔
      isMantissa cs ∨
      ∃ mantissa mark exponent, cs = mantissa ++ mark :: exponent ∧ isMantissa mantissa ∧
        marksExponent mark ∧ isExponent exponent := by
  constructor
  · intro numeral
    rcases forall_not_or_eq_append_cons marksExponent cs with
      noMark | ⟨mantissa, mark, exponent, rfl, noMark, marked⟩
    · rw [isUnsigned, cut_of_forall_not noMark] at numeral
      exact .inl ((Bool.and_eq_true _ _).mp numeral).1
    · rw [isUnsigned, cut_append_cons noMark marked] at numeral
      obtain ⟨isMantissa, isExponent⟩ := (Bool.and_eq_true _ _).mp numeral
      exact .inr ⟨mantissa, mark, exponent, rfl, isMantissa, marked, isExponent⟩
  -- the mantissa holds no mark, so the text is cut nowhere or right behind it
  · rintro (isMantissa | ⟨mantissa, mark, exponent, rfl, isMantissa, marked, isExponent⟩)
    · rw [isUnsigned, cut_of_forall_not (not_marksExponent_of_isMantissa isMantissa)]
      exact (Bool.and_eq_true _ _).mpr ⟨isMantissa, rfl⟩
    · rw [isUnsigned, cut_append_cons (not_marksExponent_of_isMantissa isMantissa) marked]
      exact (Bool.and_eq_true _ _).mpr ⟨isMantissa, isExponent⟩

/-! ## Characters -/

private theorem forall_inNumeral_of_isDigit {cs : List Char} (digits : ∀ c ∈ cs, c.isDigit) :
    ∀ c ∈ cs, inNumeral c :=
  fun c mem => inNumeral_of_isDigit (digits c mem)

private theorem forall_inNumeral_of_isMantissa {cs : List Char} (mantissa : isMantissa cs) :
    ∀ c ∈ cs, inNumeral c := by
  rcases isMantissa_iff.mp mantissa with ⟨-, digits⟩ | ⟨whole, fraction, rfl, -, digits, further⟩
  · exact forall_inNumeral_of_isDigit digits
  · exact List.forall_mem_append.mpr ⟨forall_inNumeral_of_isDigit digits,
      List.forall_mem_cons.mpr ⟨rfl, forall_inNumeral_of_isDigit further⟩⟩

private theorem forall_inNumeral_of_isExponent {cs : List Char} (exponent : isExponent cs) :
    ∀ c ∈ cs, inNumeral c := by
  obtain ⟨digits, rfl | rfl | rfl, -, digit⟩ := isExponent_iff.mp exponent
  · exact forall_inNumeral_of_isDigit digit
  · exact List.forall_mem_cons.mpr ⟨rfl, forall_inNumeral_of_isDigit digit⟩
  · exact List.forall_mem_cons.mpr ⟨rfl, forall_inNumeral_of_isDigit digit⟩

theorem forall_inNumeral_of_isUnsigned {cs : List Char} (numeral : isUnsigned cs) :
    ∀ c ∈ cs, inNumeral c := by
  rcases isUnsigned_iff.mp numeral with
    isMantissa | ⟨mantissa, mark, exponent, rfl, isMantissa, marked, isExponent⟩
  · exact forall_inNumeral_of_isMantissa isMantissa
  · exact List.forall_mem_append.mpr ⟨forall_inNumeral_of_isMantissa isMantissa,
      List.forall_mem_cons.mpr
        ⟨inNumeral_of_marksExponent marked, forall_inNumeral_of_isExponent isExponent⟩⟩

theorem forall_inNumeral {cs : List Char} (numeral : isUnsigned (dropMinus cs)) :
    ∀ c ∈ cs, inNumeral c := by
  have rest := forall_inNumeral_of_isUnsigned numeral
  unfold dropMinus at rest
  split at rest
  · exact List.forall_mem_cons.mpr ⟨rfl, rest⟩
  · exact rest

/-! ## First characters -/

theorem not_isUnsigned_nil : ¬isUnsigned [] := by
  decide

private theorem exists_cons_of_isMantissa {cs : List Char} (mantissa : isMantissa cs) :
    ∃ c rest, cs = c :: rest ∧ (c.isDigit ∨ c = '.' ∧ ∃ d ∈ rest.head?, d.isDigit) := by
  rcases isMantissa_iff.mp mantissa with
    ⟨nonempty, digits⟩ | ⟨whole, fraction, rfl, nonempty, digits, further⟩
  · obtain ⟨c, rest, rfl⟩ := List.exists_cons_of_ne_nil nonempty
    exact ⟨c, rest, rfl, .inl (digits c List.mem_cons_self)⟩
  · cases whole with
    | nil =>
        obtain ⟨d, rest, rfl⟩ := List.exists_cons_of_ne_nil (nonempty.resolve_left (· rfl))
        exact ⟨'.', d :: rest, rfl, .inr ⟨rfl, d, rfl, further d List.mem_cons_self⟩⟩
    | cons c rest => exact ⟨c, rest ++ '.' :: fraction, rfl, .inl (digits c List.mem_cons_self)⟩

/-- A numeric literal without a sign starts with a digit, or with a dot before a digit. -/
theorem head_of_isUnsigned {c : Char} {cs : List Char} (numeral : isUnsigned (c :: cs)) :
    c.isDigit ∨ c = '.' ∧ ∃ d ∈ cs.head?, d.isDigit := by
  rcases isUnsigned_iff.mp numeral with
    isMantissa | ⟨mantissa, mark, exponent, split, isMantissa, -⟩
  · obtain ⟨_, _, same, head⟩ := exists_cons_of_isMantissa isMantissa
    obtain ⟨rfl, rfl⟩ := List.cons.inj same
    exact head
  · obtain ⟨_, rest, rfl, head⟩ := exists_cons_of_isMantissa isMantissa
    obtain ⟨rfl, rfl⟩ := List.cons.inj split
    exact head.imp_right fun ⟨dot, d, first, digit⟩ =>
      ⟨dot, d, List.mem_head?_append_of_mem_head? first, digit⟩

theorem eq_dropMinus_or_eq_cons (cs : List Char) :
    cs = dropMinus cs ∨ cs = '-' :: dropMinus cs := by
  unfold dropMinus
  split <;> simp

theorem dropMinus_cons {c : Char} (unsigned : c ≠ '-') (cs : List Char) :
    dropMinus (c :: cs) = c :: cs := by
  unfold dropMinus
  split
  · rename_i split
    exact absurd (List.cons.inj split).1 unsigned
  · rfl

theorem dropMinus_of_isUnsigned {cs : List Char} (numeral : isUnsigned cs) :
    dropMinus cs = cs := by
  unfold dropMinus
  split
  · exact absurd (head_of_isUnsigned numeral) (by simp)
  · rfl

theorem head_of_numeral {c : Char} {cs : List Char}
    (numeral : isUnsigned (dropMinus (c :: cs))) : c.isDigit ∨ c = '.' ∨ c = '-' := by
  by_cases minus : c = '-'
  · exact .inr (.inr minus)
  · rw [dropMinus_cons minus] at numeral
    exact (head_of_isUnsigned numeral).imp_right fun dot => .inl dot.1

/-! ## Integers -/

/-- Digits alone are a numeric literal. -/
theorem isUnsigned_of_digits {cs : List Char} (nonempty : cs ≠ [])
    (digits : ∀ c ∈ cs, c.isDigit) : isUnsigned cs :=
  isUnsigned_iff.mpr (.inl (isMantissa_iff.mpr (.inl ⟨nonempty, digits⟩)))

theorem forall_isDigit_toString (n : Nat) : ∀ c ∈ (toString n).toList, c.isDigit := by
  rw [Nat.toString_eq_repr, Nat.toList_repr]
  exact fun c mem => Nat.isDigit_of_mem_toDigits (by decide) (by decide) mem

private theorem isUnsigned_toString (n : Nat) : isUnsigned (toString n).toList :=
  isUnsigned_of_digits (by simp) (forall_isDigit_toString n)

theorem isNumeral_toString (n : Nat) : isNumeral (toString n) := by
  rw [isNumeral, dropMinus_of_isUnsigned (isUnsigned_toString n)]
  exact isUnsigned_toString n

theorem isNumeral_toString_int (value : Int) : isNumeral (toString value) := by
  cases value with
  | ofNat n => exact isNumeral_toString n
  | negSucc n =>
      have written : toString (Int.negSucc n) = "-" ++ toString (n + 1) := rfl
      rw [written, isNumeral, String.toList_append]
      exact isUnsigned_toString (n + 1)

theorem toString_injective {m n : Nat} (same : toString m = toString n) : m = n := by
  simp only [Nat.toString_eq_repr, ← String.toList_inj, Nat.toList_repr] at same
  rw [← Nat.ofDigitChars_ten_toDigits (n := m), same, Nat.ofDigitChars_ten_toDigits]

end DdlTree.Numeral
