import DdlTree.Name
import DdlTree.Expr.Numeral

/-! # Value expressions

The scalar expressions of check constraints and column defaults.
-/

namespace DdlTree

/-- A binary operator, the weakest first. -/
inductive BinaryOp where
  | or
  | and
  | eq
  | notEq
  | lt
  | ltEq
  | gt
  | gtEq
  | plus
  | minus
  | multiply
  | divide
  deriving Repr, DecidableEq

namespace BinaryOp

def all : List BinaryOp :=
  [.or, .and, .eq, .notEq, .lt, .ltEq, .gt, .gtEq, .plus, .minus, .multiply, .divide]

def symbol : BinaryOp → String
  | .or => "OR"
  | .and => "AND"
  | .eq => "="
  | .notEq => "<>"
  | .lt => "<"
  | .ltEq => "<="
  | .gt => ">"
  | .gtEq => ">="
  | .plus => "+"
  | .minus => "-"
  | .multiply => "*"
  | .divide => "/"

def name : BinaryOp → String
  | .or => "Or"
  | .and => "And"
  | .eq => "Eq"
  | .notEq => "NotEq"
  | .lt => "Lt"
  | .ltEq => "LtEq"
  | .gt => "Gt"
  | .gtEq => "GtEq"
  | .plus => "Plus"
  | .minus => "Minus"
  | .multiply => "Multiply"
  | .divide => "Divide"

/-- How tightly an operator binds. Negation lies between conjunction and comparison. -/
def precedence : BinaryOp → Nat
  | .or => 1
  | .and => 2
  | .eq | .notEq | .lt | .ltEq | .gt | .gtEq => 4
  | .plus | .minus => 5
  | .multiply | .divide => 6

/-- Operators are written by their symbols; inequality has a second one. -/
def vocabulary : Vocabulary BinaryOp where
  noun := "operator"
  words := all.map (fun op => (op.symbol, op)) ++ [("!=", .notEq)]

end BinaryOp

/-- A scalar expression. -/
inductive Expr where
  | column (table : Option TableName) (name : Identifier) (span : Span)
  /-- A number, kept as it was written. -/
  | number (literal : String) (span : Span)
  | string (value : String) (span : Span)
  | boolean (value : Bool) (span : Span)
  | null (span : Span)
  | binary (op : BinaryOp) (left right : Expr) (span : Span)
  | not (operand : Expr) (span : Span)
  | isNull (operand : Expr) (negated : Bool) (span : Span)
  deriving Repr, DecidableEq

namespace Expr

def kind : Expr → NodeKind
  | .column .. => .columnReference
  | .number .. => .numericConstant
  | .string .. => .stringConstant
  | .boolean .. => .booleanConstant
  | .null .. => .nullConstant
  | .binary .. => .binaryOperator
  | .not .. => .not
  | .isNull .. => .isNull

def span : Expr → Span
  | .column _ _ span => span
  | .number _ span => span
  | .string _ span => span
  | .boolean _ span => span
  | .null span => span
  | .binary _ _ _ span => span
  | .not _ span => span
  | .isNull _ _ span => span

/-- The expression at another position; its parts stay where they are. -/
def withSpan (span : Span) : Expr → Expr
  | .column table name _ => .column table name span
  | .number literal _ => .number literal span
  | .string value _ => .string value span
  | .boolean value _ => .boolean value span
  | .null _ => .null span
  | .binary op left right _ => .binary op left right span
  | .not operand _ => .not operand span
  | .isNull operand negated _ => .isNull operand negated span

/-- A column, unless its name is empty. -/
def buildColumn (table : Option TableName) (name : Identifier) : Except BuildError Expr :=
  if name.isEmpty then .error (.malformed .columnReference .emptyColumnName)
  else .ok (.column table name {})

/-- A number, if the text is a numeric literal. -/
def buildNumber (text : String) : Except BuildError Expr :=
  if Numeral.isNumeral text then .ok (.number text {})
  else .error (.malformed .numericConstant (.notNumeric text))

end Expr

end DdlTree
