/-! # Reading JSON text

A strict reader: no trailing commas, no leading zeros, no text after the value. It keeps what a
settings reader needs. A string whose escapes hold an unpaired surrogate has no text, and every
number that is not written as plain digits is kept only as a number.
-/

namespace DdlTree.Json

/-- A JSON text that was read. -/
inductive Document where
  | null
  | bool (value : Bool)
  /-- A number written with digits alone. -/
  | natural (value : Nat)
  /-- Any other number. -/
  | number
  /-- A string, or `none` when an unpaired surrogate leaves it without a text. -/
  | string (text : Option String)
  | array (items : List Document)
  | object (members : List (Option String × Document))
  deriving Repr

namespace Document

/-- Skip the four characters that may stand between two tokens. -/
def skipBlank (cs : List Char) : List Char :=
  cs.dropWhile fun c => c == ' ' || c == '\t' || c == '\n' || c == '\r'

/-- The value of a hexadecimal digit of either case. -/
def hexValue? (c : Char) : Option Nat :=
  if '0' ≤ c ∧ c ≤ '9' then some (c.toNat - 48)
  else if 'a' ≤ c ∧ c ≤ 'f' then some (c.toNat - 87)
  else if 'A' ≤ c ∧ c ≤ 'F' then some (c.toNat - 55)
  else none

/-- The number that four hexadecimal digits write. -/
def hexUnit? (a b c d : Char) : Option Nat := do
  return ((← hexValue? a) * 16 + (← hexValue? b)) * 256 + (← hexValue? c) * 16 + (← hexValue? d)

/-- The character that a backslash and one letter write. -/
def shortEscape? : Char → Option Char
  | '"' => some '"'
  | '\\' => some '\\'
  | '/' => some '/'
  | 'b' => some '\x08'
  | 'f' => some '\x0c'
  | 'n' => some '\n'
  | 'r' => some '\r'
  | 't' => some '\t'
  | _ => none

/-- The code units of a string literal, after its opening quote, and the text that follows it. A
    character that is written plainly counts as one unit. -/
def units? : List Char → Option (List Nat × List Char)
  | [] => none
  | '"' :: rest => some ([], rest)
  | '\\' :: 'u' :: a :: b :: c :: d :: rest => do
      let unit ← hexUnit? a b c d
      let (units, rest) ← units? rest
      return (unit :: units, rest)
  | '\\' :: escape :: rest => do
      let c ← shortEscape? escape
      let (units, rest) ← units? rest
      return (c.toNat :: units, rest)
  | c :: rest => do
      if c.toNat < 0x20 || c == '\\' then none
      let (units, rest) ← units? rest
      return (c.toNat :: units, rest)

/-- Join surrogate pairs; a surrogate without a partner makes the text unreadable. -/
def ofUnits? : List Nat → Option (List Char)
  | [] => some []
  | [unit] => if 0xD800 ≤ unit ∧ unit < 0xE000 then none else some [Char.ofNat unit]
  | unit :: next :: rest =>
      if 0xD800 ≤ unit ∧ unit < 0xDC00 then
        if 0xDC00 ≤ next ∧ next < 0xE000 then
          (ofUnits? rest).map
            (Char.ofNat (0x10000 + (unit - 0xD800) * 0x400 + (next - 0xDC00)) :: ·)
        else none
      else if 0xDC00 ≤ unit ∧ unit < 0xE000 then none
      else (ofUnits? (next :: rest)).map (Char.ofNat unit :: ·)

/-- A string literal, after its opening quote. -/
def string? (cs : List Char) : Option (Option String × List Char) := do
  let (units, rest) ← units? cs
  return ((ofUnits? units).map String.ofList, rest)

/-- One digit at least, and the text after the last digit in a row. -/
def digits? (cs : List Char) : Option (List Char × List Char) :=
  match cs.takeWhile Char.isDigit with
  | [] => none
  | digits => some (digits, cs.dropWhile Char.isDigit)

/-- The value of a row of decimal digits. -/
def ofDigits (digits : List Char) : Nat :=
  digits.foldl (fun value c => value * 10 + (c.toNat - 48)) 0

/-- Skip the fraction of a number, if there is one. The flag tells whether there was. -/
def fraction? : List Char → Option (Bool × List Char)
  | '.' :: rest => (digits? rest).map fun (_, rest) => (true, rest)
  | cs => some (false, cs)

/-- Skip the sign of an exponent, if there is one. -/
def skipSign : List Char → List Char
  | '+' :: rest => rest
  | '-' :: rest => rest
  | cs => cs

/-- Skip the exponent of a number, if there is one. The flag tells whether there was. -/
def exponent? : List Char → Option (Bool × List Char)
  | 'e' :: rest => (digits? (skipSign rest)).map fun (_, rest) => (true, rest)
  | 'E' :: rest => (digits? (skipSign rest)).map fun (_, rest) => (true, rest)
  | cs => some (false, cs)

/-- A number without its sign. -/
def unsigned? (cs : List Char) : Option (Document × List Char) := do
  let (digits, rest) ← digits? cs
  if digits.head? == some '0' && digits.length > 1 then none
  let (fractional, rest) ← fraction? rest
  let (scaled, rest) ← exponent? rest
  return (if fractional || scaled then .number else .natural (ofDigits digits), rest)

mutual

/-- A value and the text after it. `fuel` bounds the number of nested calls. -/
def value? : (fuel : Nat) → List Char → Option (Document × List Char)
  | 0, _ => none
  | fuel + 1, cs =>
      match skipBlank cs with
      | 'n' :: 'u' :: 'l' :: 'l' :: rest => some (.null, rest)
      | 't' :: 'r' :: 'u' :: 'e' :: rest => some (.bool true, rest)
      | 'f' :: 'a' :: 'l' :: 's' :: 'e' :: rest => some (.bool false, rest)
      | '"' :: rest => (string? rest).map fun (text, rest) => (.string text, rest)
      | '-' :: rest => (unsigned? rest).map fun (_, rest) => (.number, rest)
      | '[' :: rest =>
          match skipBlank rest with
          | ']' :: rest => some (.array [], rest)
          | rest => (items? fuel rest).map fun (items, rest) => (.array items, rest)
      | '\x7b' :: rest =>
          match skipBlank rest with
          | '\x7d' :: rest => some (.object [], rest)
          | rest => (members? fuel rest).map fun (members, rest) => (.object members, rest)
      | cs => unsigned? cs

/-- The elements of an array up to and with its closing bracket. -/
def items? : (fuel : Nat) → List Char → Option (List Document × List Char)
  | 0, _ => none
  | fuel + 1, cs => do
      let (item, rest) ← value? fuel cs
      match skipBlank rest with
      | ',' :: rest =>
          let (items, rest) ← items? fuel rest
          return (item :: items, rest)
      | ']' :: rest => return ([item], rest)
      | _ => none

/-- The members of an object up to and with its closing brace. -/
def members? : (fuel : Nat) → List Char → Option (List (Option String × Document) × List Char)
  | 0, _ => none
  | fuel + 1, cs =>
      match skipBlank cs with
      | '"' :: rest => do
          let (name, rest) ← string? rest
          match skipBlank rest with
          | ':' :: rest =>
              let (value, rest) ← value? fuel rest
              match skipBlank rest with
              | ',' :: rest =>
                  let (members, rest) ← members? fuel rest
                  return ((name, value) :: members, rest)
              | '\x7d' :: rest => return ([(name, value)], rest)
              | _ => none
          | _ => none
      | _ => none

end

/-- Read a text that holds one value and nothing else but blanks. A character of the text opens at
    most two nested calls, so twice its length bounds their number. -/
def ofText? (text : String) : Option Document := do
  let cs := text.toList
  let (document, rest) ← value? (2 * cs.length + 2) cs
  if (skipBlank rest).isEmpty then some document else none

end Document

end DdlTree.Json
