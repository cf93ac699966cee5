import DdlTree.Node.Production
import DdlTree.Proofs.Acceptance
import DdlTree.Proofs.Numeral
import Mathlib.Computability.RegularExpressions
import Mathlib.Tactic.IntervalCases

/-! # The pattern of numeric literals

A regular expression for numeric literals, put together from patterns for their parts, and the match
of each part with the check that reads it. What the expression matches is taken as a number exactly
as it is written; every integer, written in digits, is among it.
-/

namespace DdlTree

namespace Numeral

open RegularExpression (char star)

/-- One of some characters. -/
def oneOf (choices : List Char) : RegularExpression Char :=
  (choices.map char).sum

/-- A pattern once, or not at all. -/
def maybe (pattern : RegularExpression Char) : RegularExpression Char :=
  1 + pattern

/-- A pattern at least once. -/
def repeated (pattern : RegularExpression Char) : RegularExpression Char :=
  pattern * star pattern

def asciiDigits : List Char :=
  ['0', '1', '2', '3', '4', '5', '6', '7', '8', '9']

/-- The pattern `D` of one ASCII digit. -/
def digitPattern : RegularExpression Char :=
  oneOf asciiDigits

/-- The pattern `D+(.D*)?|.D+`. -/
def mantissaPattern : RegularExpression Char :=
  repeated digitPattern * maybe (char '.' * star digitPattern) + char '.' * repeated digitPattern

/-- The pattern `[+-]?D+`. -/
def exponentPattern : RegularExpression Char :=
  maybe (oneOf ['+', '-']) * repeated digitPattern

/-- The pattern `(D+(.D*)?|.D+)([eE][+-]?D+)?`. -/
def unsignedPattern : RegularExpression Char :=
  mantissaPattern * maybe (oneOf ['e', 'E'] * exponentPattern)

/-- The pattern `-?(D+(.D*)?|.D+)([eE][+-]?D+)?`. -/
def pattern : RegularExpression Char :=
  maybe (char '-') * unsignedPattern

variable {cs : List Char} {P : RegularExpression Char}

/-! ## Characters and choices -/

theorem mem_maybe : cs ∈ (maybe P).matches' ↔ cs = [] ∨ cs ∈ P.matches' :=
  Iff.rfl

theorem mem_oneOf {choices : List Char} :
    cs ∈ (oneOf choices).matches' ↔ ∃ c ∈ choices, cs = [c] := by
  induction choices with
  | nil => simp [oneOf]
  | cons c rest ih =>
      rw [List.exists_mem_cons_iff, ← ih]
      rfl

theorem mem_oneOf_mul {choices : List Char} :
    cs ∈ (oneOf choices * P).matches' ↔ ∃ c ∈ choices, ∃ rest ∈ P.matches', cs = c :: rest := by
  rw [RegularExpression.matches'_mul, Language.mem_mul]
  constructor
  · rintro ⟨_, first, rest, matched, rfl⟩
    obtain ⟨c, mem, rfl⟩ := mem_oneOf.mp first
    exact ⟨c, mem, rest, matched, rfl⟩
  · rintro ⟨c, mem, rest, matched, rfl⟩
    exact ⟨[c], mem_oneOf.mpr ⟨c, mem, rfl⟩, rest, matched, rfl⟩

theorem mem_char_mul {c : Char} :
    cs ∈ (char c * P).matches' ↔ ∃ rest ∈ P.matches', cs = c :: rest := by
  rw [RegularExpression.matches'_mul, Language.mem_mul]
  constructor
  · rintro ⟨_, rfl, rest, matched, rfl⟩
    exact ⟨rest, matched, rfl⟩
  · rintro ⟨rest, matched, rfl⟩
    exact ⟨[c], rfl, rest, matched, rfl⟩

/-! ## Digits -/

theorem isDigit_iff_mem {c : Char} : c.isDigit ↔ c ∈ asciiDigits := by
  constructor
  · intro digit
    obtain ⟨low, high⟩ : 48 ≤ c.toNat ∧ c.toNat ≤ 57 := by
      simpa [Char.isDigit, UInt32.le_iff_toNat_le] using digit
    rw [← Char.ofNat_toNat c]
    interval_cases c.toNat <;> decide
  · have digits : asciiDigits.all Char.isDigit := by decide
    exact List.all_eq_true.mp digits c

theorem mem_star_digitPattern :
    cs ∈ (star digitPattern).matches' ↔ ∀ c ∈ cs, c.isDigit := by
  rw [RegularExpression.matches'_star, Language.mem_kstar]
  constructor
  · rintro ⟨parts, rfl, digits⟩ c mem
    obtain ⟨part, inParts, inPart⟩ := List.mem_flatten.mp mem
    obtain ⟨d, digit, rfl⟩ := mem_oneOf.mp (digits part inParts)
    exact isDigit_iff_mem.mpr (List.mem_singleton.mp inPart ▸ digit)
  · intro digits
    refine ⟨cs.map ([·]), (List.flatMap_singleton' cs).symm, ?_⟩
    exact List.forall_mem_map.mpr fun c mem =>
      mem_oneOf.mpr ⟨c, isDigit_iff_mem.mp (digits c mem), rfl⟩

theorem mem_repeated_digitPattern :
    cs ∈ (repeated digitPattern).matches' ↔ cs ≠ [] ∧ ∀ c ∈ cs, c.isDigit := by
  rw [repeated, digitPattern, mem_oneOf_mul, ← digitPattern]
  constructor
  · rintro ⟨c, digit, rest, digits, rfl⟩
    exact ⟨nofun, List.forall_mem_cons.mpr
      ⟨isDigit_iff_mem.mpr digit, mem_star_digitPattern.mp digits⟩⟩
  · rintro ⟨nonempty, digits⟩
    obtain ⟨c, rest, rfl⟩ := List.exists_cons_of_ne_nil nonempty
    obtain ⟨digit, digits⟩ := List.forall_mem_cons.mp digits
    exact ⟨c, isDigit_iff_mem.mp digit, rest, mem_star_digitPattern.mpr digits, rfl⟩

/-! ## Parts of a literal -/

theorem mem_mantissaPattern : cs ∈ mantissaPattern.matches' ↔ isMantissa cs := by
  rw [isMantissa_iff, mantissaPattern, RegularExpression.matches'_add, Language.mem_add,
    RegularExpression.matches'_mul, Language.mem_mul, mem_char_mul]
  constructor
  · rintro (⟨whole, matched, point, pointMatched, rfl⟩ | ⟨fraction, matched, rfl⟩)
    · obtain ⟨nonempty, digits⟩ := mem_repeated_digitPattern.mp matched
      rcases mem_maybe.mp pointMatched with rfl | pointMatched
      · rw [List.append_nil]
        exact .inl ⟨nonempty, digits⟩
      · obtain ⟨fraction, further, rfl⟩ := mem_char_mul.mp pointMatched
        exact .inr ⟨whole, fraction, rfl, .inl nonempty, digits, mem_star_digitPattern.mp further⟩
    · obtain ⟨nonempty, digits⟩ := mem_repeated_digitPattern.mp matched
      exact .inr ⟨[], fraction, rfl, .inr nonempty, nofun, digits⟩
  · rintro (digits | ⟨whole, fraction, rfl, nonempty, digits, further⟩)
    · exact .inl ⟨cs, mem_repeated_digitPattern.mpr digits, [], mem_maybe.mpr (.inl rfl),
        List.append_nil cs⟩
    -- the dot belongs to either alternative, by whether digits stand before it
    · cases whole with
      | nil =>
          have nonempty : fraction ≠ [] := nonempty.resolve_left (· rfl)
          exact .inr ⟨fraction, mem_repeated_digitPattern.mpr ⟨nonempty, further⟩, rfl⟩
      | cons c rest =>
          refine .inl ⟨c :: rest, mem_repeated_digitPattern.mpr ⟨nofun, digits⟩, '.' :: fraction,
            mem_maybe.mpr (.inr ?_), rfl⟩
          exact mem_char_mul.mpr ⟨fraction, mem_star_digitPattern.mpr further, rfl⟩

theorem mem_exponentPattern : cs ∈ exponentPattern.matches' ↔ isExponent cs := by
  rw [isExponent_iff, exponentPattern, RegularExpression.matches'_mul, Language.mem_mul]
  constructor
  · rintro ⟨sign, signMatched, digits, matched, rfl⟩
    refine ⟨digits, ?_, mem_repeated_digitPattern.mp matched⟩
    rcases mem_maybe.mp signMatched with rfl | signMatched
    · exact .inl rfl
    · obtain ⟨c, mem, rfl⟩ := mem_oneOf.mp signMatched
      simpa using mem
  · rintro ⟨digits, signed, isDigits⟩
    have matched := mem_repeated_digitPattern.mpr isDigits
    have signMatched {c : Char} (mem : c ∈ ['+', '-']) :
        [c] ∈ (maybe (oneOf ['+', '-'])).matches' :=
      mem_maybe.mpr (.inr (mem_oneOf.mpr ⟨c, mem, rfl⟩))
    rcases signed with rfl | rfl | rfl
    · exact ⟨[], mem_maybe.mpr (.inl rfl), cs, matched, rfl⟩
    · exact ⟨['+'], signMatched (by decide), digits, matched, rfl⟩
    · exact ⟨['-'], signMatched (by decide), digits, matched, rfl⟩

theorem marksExponent_iff_mem {c : Char} : marksExponent c ↔ c ∈ ['e', 'E'] := by
  simp [marksExponent]

theorem mem_unsignedPattern : cs ∈ unsignedPattern.matches' ↔ isUnsigned cs := by
  rw [isUnsigned_iff, unsignedPattern, RegularExpression.matches'_mul, Language.mem_mul]
  constructor
  · rintro ⟨mantissa, matched, tail, tailMatched, rfl⟩
    have isMantissa := mem_mantissaPattern.mp matched
    rcases mem_maybe.mp tailMatched with rfl | tailMatched
    · rw [List.append_nil]
      exact .inl isMantissa
    · obtain ⟨mark, mem, exponent, matched, rfl⟩ := mem_oneOf_mul.mp tailMatched
      exact .inr ⟨mantissa, mark, exponent, rfl, isMantissa, marksExponent_iff_mem.mpr mem,
        mem_exponentPattern.mp matched⟩
  · rintro (isMantissa | ⟨mantissa, mark, exponent, rfl, isMantissa, marked, isExponent⟩)
    · exact ⟨cs, mem_mantissaPattern.mpr isMantissa, [], mem_maybe.mpr (.inl rfl),
        List.append_nil cs⟩
    · refine ⟨mantissa, mem_mantissaPattern.mpr isMantissa, mark :: exponent,
        mem_maybe.mpr (.inr ?_), rfl⟩
      exact mem_oneOf_mul.mpr
        ⟨mark, marksExponent_iff_mem.mp marked, exponent, mem_exponentPattern.mpr isExponent, rfl⟩

/-! ## Literals -/

theorem mem_pattern : cs ∈ pattern.matches' ↔ isUnsigned (dropMinus cs) := by
  rw [pattern, RegularExpression.matches'_mul, Language.mem_mul]
  constructor
  · rintro ⟨sign, signMatched, unsigned, matched, rfl⟩
    have numeral := mem_unsignedPattern.mp matched
    rcases mem_maybe.mp signMatched with rfl | rfl
    -- without the sign there is no minus sign in front that could be dropped
    · rw [List.nil_append, dropMinus_of_isUnsigned numeral]
      exact numeral
    · exact numeral
  · intro numeral
    have matched := mem_unsignedPattern.mpr numeral
    rcases eq_dropMinus_or_eq_cons cs with same | minus
    · exact ⟨[], mem_maybe.mpr (.inl rfl), dropMinus cs, matched, same.symm⟩
    · exact ⟨['-'], mem_maybe.mpr (.inr rfl), dropMinus cs, matched, minus.symm⟩

example : "-5.E+10".toList ∈ pattern.matches' ∧ "1.2.3".toList ∉ pattern.matches' := by
  decide

theorem isNumeral_iff {text : String} : isNumeral text ↔ text.toList ∈ pattern.matches' :=
  mem_pattern.symm

end Numeral

/-- Numeric literals are recognised exactly. A text makes a number if the pattern
    `-?(D+(.D*)?|.D+)([eE][+-]?D+)?` of ASCII digits `D` matches it, and only then; the number holds
    the text as it was given. An integer argument makes a number for every integer, those of 64 bits
    among them, and the number holds its decimal digits. -/
theorem numerals_exact :
    (∀ (text : String) (number : Expr),
      Expr.buildNumber text = .ok number ↔
        text.toList ∈ Numeral.pattern.matches' ∧ number = .number text {}) ∧
    ∀ (session : Session) (value : Int),
      Production.build session .numericConstant [.int value]
        = .ok (.expr (.number (toString value) {})) := by
  refine ⟨fun text number => ?_, fun session value => ?_⟩
  · rw [Expr.buildNumber_eq_ok, and_congr_left_iff]
    rintro rfl
    exact Numeral.isNumeral_iff
  · have read : Place.textOrInt ⟨.numericConstant, 1, "value"⟩ (.int value)
        = .ok (toString value) := rfl
    have built : Expr.buildNumber (toString value) = .ok (.number (toString value) {}) :=
      Expr.buildNumber_eq_ok.mpr ⟨Numeral.isNumeral_toString_int value, rfl⟩
    exact bind_ok read (bind_ok built rfl)

/-- The least integer of 64 bits. -/
example (session : Session) :
    Production.build session .numericConstant [.int (-9223372036854775808)]
      = .ok (.expr (.number "-9223372036854775808" {})) := by
  rfl

end DdlTree
