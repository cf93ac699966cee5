import DdlTree.Error

/-! # Data types

The types of columns, with a length or a precision and scale where the type takes them. Parameters
are numbers of 32 bits.
-/

namespace DdlTree

inductive DataType where
  | int
  | bigInt
  | smallInt
  | boolean
  | double
  | real
  | decimal (precision scale : Nat)
  | varchar (length : Nat)
  | char (length : Nat)
  | date
  | time
  | timestamp
  | clob
  | blob
  deriving Repr, DecidableEq

namespace DataType

/-- The types without parameters, by tag. -/
def plain : List (String × DataType) :=
  [("INT", .int), ("INTEGER", .int), ("BIGINT", .bigInt), ("SMALLINT", .smallInt),
   ("BOOLEAN", .boolean), ("DOUBLE", .double), ("REAL", .real), ("DATE", .date), ("TIME", .time),
   ("TIMESTAMP", .timestamp), ("CLOB", .clob), ("BLOB", .blob)]

/-- The report of a fault in the type of a column. -/
def refuse {α : Type} (fault : Fault) : Except BuildError α :=
  .error (.malformed .columnDefinition fault)

/-- A parameter of 32 bits that has to be there and to be positive. -/
def positive (tag parameter : String) : Option Int → Except BuildError Nat
  | none => refuse (.typeNeedsParameter tag parameter)
  | some value =>
      if 0 < value ∧ value < UInt32.size then .ok value.toNat
      else refuse (.parameterNotPositive tag parameter value)

/-- A decimal type, if the precision is positive and the scale not above it. -/
def buildDecimal (precision scale : Nat) : Except BuildError DataType :=
  if precision = 0 ∨ precision < scale then refuse (.invalidDecimal precision scale)
  else .ok (.decimal precision scale)

/-- A scale of 32 bits; a missing one is zero. -/
def scaleOf : Option Int → Except BuildError Nat
  | none => .ok 0
  | some value =>
      if 0 ≤ value ∧ value < UInt32.size then .ok value.toNat else refuse (.negativeScale value)

/-- A type that takes a length and nothing else. -/
def sized (tag : String) (type : Nat → DataType) (length scale : Option Int) :
    Except BuildError DataType :=
  if scale.isSome then refuse (.typeTakesNoScale tag)
  else (positive tag "length" length).map type

/-- The type of a tag with the given parameters. -/
def build (tag : String) (length scale : Option Int) : Except BuildError DataType :=
  match plain.lookup tag with
  | some type =>
      if length.isSome || scale.isSome then refuse (.typeTakesNoParameters tag) else .ok type
  | none =>
      match tag with
      | "VARCHAR" => sized tag .varchar length scale
      | "CHAR" => sized tag .char length scale
      | "DECIMAL" => do
          let precision ← positive tag "precision" length
          let scale ← scaleOf scale
          buildDecimal precision scale
      | _ => refuse (.unknownType tag)

def text : DataType → String
  | .int => "INT"
  | .bigInt => "BIGINT"
  | .smallInt => "SMALLINT"
  | .boolean => "BOOLEAN"
  | .double => "DOUBLE"
  | .real => "REAL"
  | .decimal precision scale => s!"DECIMAL({precision}, {scale})"
  | .varchar length => s!"VARCHAR({length})"
  | .char length => s!"CHAR({length})"
  | .date => "DATE"
  | .time => "TIME"
  | .timestamp => "TIMESTAMP"
  | .clob => "CLOB"
  | .blob => "BLOB"

/-- The name of a type, without its parameters. -/
def name : DataType → String
  | .int => "Int"
  | .bigInt => "BigInt"
  | .smallInt => "SmallInt"
  | .boolean => "Boolean"
  | .double => "Double"
  | .real => "Real"
  | .decimal .. => "Decimal"
  | .varchar _ => "Varchar"
  | .char _ => "Char"
  | .date => "Date"
  | .time => "Time"
  | .timestamp => "Timestamp"
  | .clob => "Clob"
  | .blob => "Blob"

/-- The name of a type with its parameters spelled out. -/
def description : DataType → String
  | .decimal precision scale =>
      s!"Decimal \x7b precision: {precision}, scale: {scale} \x7d"
  | .varchar length => s!"Varchar({length})"
  | .char length => s!"Char({length})"
  | type => type.name

end DataType

end DdlTree
