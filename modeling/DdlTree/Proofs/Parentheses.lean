import DdlTree.Proofs.Outside
import DdlTree.Proofs.RenderExpr
import DdlTree.Proofs.RenderRelabel

/-! # Rendered expressions have as few parentheses as possible

How many parentheses the grammar asks for. An operand needs a pair exactly if its level is weaker
than the one that stands in its place, and no derivation goes without these. The rendered text has
no others.
-/

namespace DdlTree

open Text

/-- The parentheses around an operand. -/
def parensIf (wanted : Bool) : Nat :=
  if wanted then 2 else 0

/-- The parentheses that an expression needs. -/
def Expr.parens : Expr → Nat
  | .binary op left right _ =>
      left.parens + parensIf (left.binding < op.precedence)
        + (right.parens + parensIf (right.binding ≤ op.precedence))
  | .not operand _ => operand.parens + parensIf (operand.binding < notPrecedence)
  | .isNull operand _ _ => operand.parens + parensIf (operand.binding ≤ isNullPrecedence)
  | _ => 0

theorem Expr.parens_relabel (mark : Identifier → Identifier) (expr : Expr) :
    (expr.relabel mark).parens = expr.parens := by
  induction expr with
  | binary op left right span ihLeft ihRight =>
      simp only [relabel, parens, binding_relabel, ihLeft, ihRight]
  | not operand span ih | isNull operand negated span ih =>
      simp only [relabel, parens, binding_relabel, ih]
  | _ => rfl

/-! ## The tokens of a rendered expression -/

namespace Token

@[simp] theorem countParens_nil : countParens [] = 0 :=
  rfl

theorem countParens_cons_of_not {t : Token} (other : t.isParen = false) (tokens : List Token) :
    countParens (t :: tokens) = countParens tokens :=
  List.countP_cons_of_neg (by simp [other])

theorem countParens_parens (tokens : List Token) :
    countParens (parens tokens) = countParens tokens + 2 := by
  rw [parens, countParens, List.countP_cons_of_pos (by decide), List.countP_append]
  rfl

theorem countParens_parensIf (wanted : Bool) (tokens : List Token) :
    countParens (Token.parensIf wanted tokens) = countParens tokens + DdlTree.parensIf wanted := by
  cases wanted with
  | false => rfl
  | true => exact countParens_parens tokens

theorem isParen_op (op : BinaryOp) : op.token.isParen = false := by
  cases op <;> rfl

end Token

open Token

theorem Style.isParen_token (style : Style) (identifier : Identifier) :
    (style.token identifier).isParen = false := by
  rw [Style.token]
  split <;> rfl

theorem countParens_column (style : Style) (table : Option TableName) (name : Identifier) :
    countParens (columnTokens style table name) = 0 := by
  have free (identifier : Identifier) (rest : List Token) :
      countParens (style.token identifier :: rest) = countParens rest :=
    countParens_cons_of_not (style.isParen_token identifier) rest
  have dot (rest : List Token) : countParens (.symbol "." :: rest) = countParens rest :=
    countParens_cons_of_not rfl rest
  cases table with
  | none => rw [columnTokens, free, countParens_nil]
  | some table =>
      obtain ⟨schema, table, span⟩ := table
      cases schema <;>
        simp only [columnTokens, TableName.tokens, List.cons_append, List.nil_append, free, dot,
          countParens_nil]

theorem Expr.countParens_tokens (style : Style) (expr : Expr) :
    countParens (expr.tokens style) = expr.parens := by
  induction expr with
  | column table name span => exact countParens_column style table name
  | number | string | null => rfl
  | boolean value span => cases value <;> rfl
  | binary op left right span ihLeft ihRight =>
      rw [tokens, parens, countParens_append, countParens_cons_of_not (isParen_op op),
        countParens_parensIf, countParens_parensIf, ihLeft, ihRight]
  | not operand span ih =>
      rw [tokens, parens, countParens_cons_of_not rfl, countParens_parensIf, ih]
  | isNull operand negated span ih =>
      rw [tokens, parens, countParens_append, countParens_parensIf, ih]
      cases negated <;> rfl

/-! ## What every derivation needs -/

theorem parensIf_mono {wanted needed : Bool} (implies : wanted = true → needed = true) :
    parensIf wanted ≤ parensIf needed := by
  cases wanted with
  | false => exact Nat.zero_le _
  | true => rw [implies rfl]

/-- A left operand is in parentheses if it belongs to a weaker level than the operator. -/
theorem Expr.parens_left (expr : Expr) (level : Level) :
    parensIf (expr.binding < level.rank) = parensIf (expr.level.rank < level.rank) :=
  congrArg parensIf (decide_eq_decide.mpr (binding_lt_iff (by cases level <;> decide)))

/-- A right operand is in parentheses unless it belongs to a tighter level than the operator. -/
theorem Expr.parens_right (expr : Expr) {level : Level} (above : level ≠ .prim) :
    parensIf (expr.binding ≤ level.rank) = parensIf (expr.level.rank < level.tighter.rank) := by
  rw [← parens_left, Level.rank_tighter above]
  exact congrArg parensIf (decide_eq_decide.mpr Nat.lt_add_one_iff.symm)

/-- Tokens that a level derives have the parentheses that the expression needs, and two more if the
    expression belongs to a weaker level. -/
theorem Derives.parens_le {level : Level} {tokens : List Token} {e : Expr}
    (derives : Derives level tokens e) :
    e.parens + parensIf (e.level.rank < level.rank) ≤ countParens tokens := by
  have own (level : Level) : parensIf (level.rank < level.rank) = 0 := by
    rw [decide_eq_false (Nat.lt_irrefl _)]
    rfl
  induction derives with
  | @lift level tokens e above tighter ih =>
      have next := Level.rank_lt_tighter above
      have more : parensIf (e.level.rank < level.rank)
          ≤ parensIf (e.level.rank < level.tighter.rank) :=
        parensIf_mono fun weaker => decide_eq_true ((of_decide_eq_true weaker).trans next)
      omega
  | @binary op left right leftTokens rightTokens span isLeft isRight ihLeft ihRight =>
      have above : op.level ≠ .prim := by cases op <;> decide
      rw [countParens_append, countParens_cons_of_not (isParen_op op), Expr.level, own, Expr.parens,
        op.precedence_eq_rank, left.parens_left, right.parens_right above]
      omega
  | @not operand tokens span isOperand ih =>
      have notRank : notPrecedence = Level.not.rank := rfl
      rw [countParens_cons_of_not rfl, Expr.level, own, Expr.parens, notRank, operand.parens_left]
      omega
  | @isNull operand tokens span isOperand ih | @isNotNull operand tokens span isOperand ih =>
      have testRank : isNullPrecedence = Level.cmp.rank := rfl
      rw [countParens_append, Expr.level, own, Expr.parens, testRank,
        operand.parens_right (by decide)]
      exact ih
  | @parens tokens e inside ih =>
      have atMost : parensIf (e.level.rank < Level.prim.rank) ≤ 2 := by
        cases decide (e.level.rank < Level.prim.rank) <;> decide
      rw [countParens_parens]
      omega
  | _ => exact Nat.zero_le _

/-! ## Rendered expressions -/

/-- An identifier as if it had been read bare. -/
def Identifier.bare (identifier : Identifier) : Identifier :=
  .regular identifier.name

/-- A text means an expression if it derives one that differs from it in nothing but positions and
    in which of the identifiers are delimited. -/
def Style.Means (style : Style) (text : String) (e : Expr) : Prop :=
  ∃ meant, Derives .or (Token.scan style.quote text.toList) meant ∧
    meant.relabel Identifier.bare = e.relabel Identifier.bare

theorem Style.Means.parens_le {style : Style} {text : String} {e : Expr}
    (means : style.Means text e) :
    e.parens ≤ countParens (Token.scan style.quote text.toList) := by
  obtain ⟨meant, derives, same⟩ := means
  have equal : meant.parens = e.parens := by
    rw [← Expr.parens_relabel Identifier.bare meant, same, Expr.parens_relabel]
  have needed := derives.parens_le
  omega

/-- A rendered expression means what it came from, with no more parentheses than it needs. -/
theorem Style.means_of_expr {rule : DataType → Prop} {style : Style}
    (apart : StandsApart style.quote) {e : Expr} {text : String}
    (valid : (Node.expr e).Valid rule) (written : style.expr e = .ok text) :
    style.Means text e ∧ countParens (Token.scan style.quote text.toList) = e.parens := by
  have scanned := (scans_exprAt apart valid written).scan_eq
  have marks : Identifier.bare ∘ style.mark = Identifier.bare := rfl
  refine ⟨⟨_, (style.derives_of_expr apart valid written).1, ?_⟩, ?_⟩
  · rw [Expr.relabel_relabel, marks]
  · rw [scanned, e.countParens_tokens]

/-- Rendered expressions have as few parentheses as possible: no text that means the expression has
    fewer, so a text without two of its parentheses means something else. -/
theorem parentheses_minimal {style : Style} (apart : StandsApart style.quote) {e : Expr}
    (reachable : Reachable (fun _ => True) (.expr e)) :
    (style.maxDepth = none → ∃ text, style.render (.expr e) = .ok text) ∧
    ∀ text, style.render (.expr e) = .ok text →
      style.Means text e ∧
      (∀ other, style.Means other e → countParens (Token.scan style.quote text.toList)
        ≤ countParens (Token.scan style.quote other.toList)) ∧
      ∀ before inside after, text = before ++ "(" ++ inside ++ ")" ++ after →
        region style.quote before = none → region style.quote (before ++ "(" ++ inside) = none →
        ¬style.Means (before ++ inside ++ after) e := by
  have valid : (Node.expr e).Valid fun _ => True :=
    reachable.valid (fun _ _ => trivial) fun _ _ => trivial
  refine ⟨fun unlimited => Style.exprAt_ok unlimited valid 0, fun text written => ?_⟩
  obtain ⟨means, count⟩ := Style.means_of_expr apart valid written
  refine ⟨means, fun other othersMean => count ▸ othersMean.parens_le, ?_⟩
  rintro before inside after rfl opens closes fewer
  have needed := fewer.parens_le
  rw [countParens_scan apart] at needed count
  rw [parensOutside_delete apart opens closes] at count
  omega

/-- A negated conjunction needs its parentheses, and those in a name are no parentheses. -/
theorem parentheses_minimal_not :
    let e : Expr :=
      .not (.binary .and (.column none (.delimited ")(") {}) (.null {}) {}) {}
    let style : Style := {}
    style.render (.expr e) = .ok "NOT (\")(\" AND NULL)" ∧
      (∀ other, style.Means other e → 2 ≤ countParens (Token.scan style.quote other.toList)) ∧
      ¬style.Means "NOT \")(\" AND NULL" e := by
  intro e style
  have construct {node : Node} (built : Constructed (fun _ => True) {} node)
      (parts : ∀ child ∈ node.children, Reachable (fun _ => True) child) :
      Reachable (fun _ => True) node := .construct built parts
  have named : Expr.buildColumn none (.delimited ")(") = .ok (.column none (.delimited ")(") {}) :=
    rfl
  have both := construct (.binary .and _ _)
    (List.forall_mem_cons.mpr ⟨.leaf {} (.column named) rfl,
      List.forall_mem_singleton.mpr (.leaf {} .null rfl)⟩)
  have reachable : Reachable (fun _ => True) (.expr e) :=
    construct (.not _) (List.forall_mem_singleton.mpr both)
  have apart : StandsApart style.quote := ⟨by decide, by decide⟩
  have written : style.render (.expr e) = .ok "NOT (\")(\" AND NULL)" := rfl
  obtain ⟨-, rendered⟩ := parentheses_minimal apart reachable
  obtain ⟨-, fewest, delete⟩ := rendered _ written
  have needed : countParens (Token.scan style.quote "NOT (\")(\" AND NULL)".toList) = 2 := by
    rw [countParens_scan apart]
    decide
  refine ⟨written, fun other means => needed ▸ fewest other means, ?_⟩
  exact delete "NOT " "\")(\" AND NULL" "" rfl (by decide) (by decide)

end DdlTree
