/-! # Numeric literals

An optional minus sign, digits with at most one dot among or beside them, and an optional exponent.
Only ASCII digits count. A text is cut at the first mark of an exponent and then at the first dot,
and its parts are checked one by one; a second mark or dot is left in a part and refused there.
-/

namespace DdlTree.Numeral

/-- Drop a leading minus sign. -/
def dropMinus : List Char → List Char
  | '-' :: rest => rest
  | cs => cs

/-- Drop a leading sign of either kind. -/
def dropSign : List Char → List Char
  | '+' :: rest => rest
  | '-' :: rest => rest
  | cs => cs

/-- Cut a text at the first character of some kind: what stands before it and, if there is one,
    what stands behind it. -/
def cut (mark : Char → Bool) (cs : List Char) : List Char × Option (List Char) :=
  (cs.takeWhile (!mark ·), (cs.dropWhile (!mark ·)).tail?)

def marksExponent (c : Char) : Bool :=
  c == 'e' || c == 'E'

/-- Whether a text is digits around at most one dot. There has to be a digit before or after the
    dot; without a dot the fraction is empty. -/
def isMantissa (cs : List Char) : Bool :=
  let (whole, fraction) := cut (· == '.') cs
  let fraction := fraction.getD []
  !(whole.isEmpty && fraction.isEmpty) && whole.all Char.isDigit && fraction.all Char.isDigit

/-- Whether a text is digits, at least one, perhaps after a sign. -/
def isExponent (cs : List Char) : Bool :=
  !(dropSign cs).isEmpty && (dropSign cs).all Char.isDigit

/-- Whether a text without a minus sign is a numeric literal. -/
def isUnsigned (cs : List Char) : Bool :=
  let (mantissa, exponent) := cut marksExponent cs
  isMantissa mantissa && exponent.all isExponent

/-- Whether a text is a numeric literal. -/
def isNumeral (text : String) : Bool :=
  isUnsigned (dropMinus text.toList)

end DdlTree.Numeral
