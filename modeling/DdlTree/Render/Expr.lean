import DdlTree.Expr
import DdlTree.Render.Style

/-! # Rendered expressions

Expressions as SQL with no parentheses but those that the operators need. Operators of one strength
group to the left.
-/

namespace DdlTree

def notPrecedence : Nat := 3

def isNullPrecedence : Nat := 4

/-- How tightly an expression without operators binds. -/
def atomPrecedence : Nat := 255

/-- How tightly an expression binds as an operand. -/
def Expr.binding : Expr → Nat
  | .binary op .. => op.precedence
  | .not .. => notPrecedence
  | .isNull .. => isNullPrecedence
  | _ => atomPrecedence

/-- Put a text in parentheses if they are wanted. -/
def parenthesize (wanted : Bool) (text : String) : String :=
  if wanted then "(" ++ text ++ ")" else text

namespace Style

/-- Refuse an expression with as many expressions above it as the style allows. -/
def checkDepth (style : Style) (depth : Nat) (kind : NodeKind) : Except RenderError Unit :=
  match style.maxDepth with
  | some limit => if limit ≤ depth then .error ⟨kind, .tooDeep limit⟩ else .ok ()
  | none => .ok ()

theorem checkDepth_unlimited {style : Style} (unlimited : style.maxDepth = none) (depth : Nat)
    (kind : NodeKind) : style.checkDepth depth kind = .ok () := by
  rw [checkDepth, unlimited]

/-- An expression with `depth` expressions above it. -/
def exprAt (style : Style) (depth : Nat) (expr : Expr) : Except RenderError String := do
  style.checkDepth depth expr.kind
  match expr with
  | .column table name _ => style.column .columnReference table name
  | .number literal _ => return literal
  | .string value _ => return stringLiteral value
  | .boolean value _ => return if value then "TRUE" else "FALSE"
  | .null _ => return "NULL"
  | .binary op left right _ =>
      let leftText ← style.exprAt (depth + 1) left
      let rightText ← style.exprAt (depth + 1) right
      return parenthesize (left.binding < op.precedence) leftText ++ " " ++ op.symbol ++ " "
        ++ parenthesize (right.binding ≤ op.precedence) rightText
  | .not operand _ =>
      let text ← style.exprAt (depth + 1) operand
      return "NOT " ++ parenthesize (operand.binding < notPrecedence) text
  | .isNull operand negated _ =>
      let text ← style.exprAt (depth + 1) operand
      return parenthesize (operand.binding ≤ isNullPrecedence) text
        ++ if negated then " IS NOT NULL" else " IS NULL"

/-- An expression that stands in no other expression. -/
def expr (style : Style) (expr : Expr) : Except RenderError String :=
  style.exprAt 0 expr

end Style

end DdlTree
