import DdlTree.Proofs.Grammar
import DdlTree.Proofs.Invariant
import DdlTree.Render.Node

/-! # Rendered expressions mean the tree they came from

The tokens of a rendered expression, and that the text is read as these tokens. Parentheses stand
exactly where the grammar asks for them, so the tokens derive the expression, and by the grammar
nothing else.
-/

namespace DdlTree

open Text

/-! ## Tokens -/

def Style.token (style : Style) (identifier : Identifier) : Token :=
  if style.needsQuotes identifier then .delimited identifier.name else .word identifier.name

def TableName.tokens (style : Style) (table : TableName) : List Token :=
  match table.schema with
  | some schema => [style.token schema, .symbol ".", style.token table.name]
  | none => [style.token table.name]

/-- The tokens of a column under its table, if it names one. -/
def columnTokens (style : Style) (table : Option TableName) (column : Identifier) : List Token :=
  match table with
  | some table => table.tokens style ++ [.symbol ".", style.token column]
  | none => [style.token column]

def Token.parensIf (wanted : Bool) (tokens : List Token) : List Token :=
  if wanted then Token.parens tokens else tokens

def Expr.tokens (style : Style) : Expr → List Token
  | .column table name _ => columnTokens style table name
  | .number literal _ => [.number literal]
  | .string value _ => [.literal value]
  | .boolean value _ => [.word (if value then "TRUE" else "FALSE")]
  | .null _ => [.word "NULL"]
  | .binary op left right _ =>
      Token.parensIf (left.binding < op.precedence) (left.tokens style)
        ++ op.token :: Token.parensIf (right.binding ≤ op.precedence) (right.tokens style)
  | .not operand _ =>
      .word "NOT" :: Token.parensIf (operand.binding < notPrecedence) (operand.tokens style)
  | .isNull operand negated _ =>
      Token.parensIf (operand.binding ≤ isNullPrecedence) (operand.tokens style)
        ++ if negated then [.word "IS", .word "NOT", .word "NULL"] else [.word "IS", .word "NULL"]

/-! ## Text -/

section Text

variable {style : Style} (apart : StandsApart style.quote)

include apart

omit apart in
/-- An identifier that is written bare is a bare word and not reserved. -/
theorem Style.bare_of_needsQuotes {identifier : Identifier}
    (bare : style.needsQuotes identifier = false) :
    isBareWord identifier.name ∧ isReserved identifier.name = false := by
  simp only [needsQuotes, Bool.or_eq_false_iff, Bool.not_eq_false'] at bare
  exact ⟨bare.1.1.2, bare.2⟩

/-- An identifier starts neither like a number nor with a dot. -/
private theorem head_of_identifier {kind : NodeKind} {identifier : Identifier} {text : String}
    (written : style.identifier kind identifier = .ok text) (rest : List Char) :
    ∀ d ∈ (text.toList ++ rest).head?, d.isDigit = false ∧ d ≠ '.' := by
  obtain ⟨-, written⟩ := refuse_eq_ok.mp written
  split at written
  · obtain rfl := Except.ok.inj written
    intro d isHead
    obtain rfl : style.quote = d := by simpa [delimited] using isHead
    have word := apart.word
    simp only [inBareWord, Char.isAlphanum, Bool.or_eq_false_iff] at word
    exact ⟨word.1.2, fun dot => apart.mark (dot ▸ by decide)⟩
  · rename_i bare
    obtain rfl := Except.ok.inj written
    have bare := (Style.bare_of_needsQuotes (by simpa using bare)).1
    rw [isBareWord] at bare
    split at bare
    · simp at bare
    · rename_i first more chars
      rw [chars]
      intro d isHead
      obtain rfl : first = d := by simpa using isHead
      rw [Bool.and_eq_true] at bare
      refine ⟨?_, ?_⟩
      · cases digit : first.isDigit with
        | false => rfl
        | true => simp [opensBareWord_of_isDigit digit] at bare
      · rintro rfl
        simp [opensBareWord] at bare

theorem Style.scans_identifier {kind : NodeKind} {identifier : Identifier} {text : String}
    (written : style.identifier kind identifier = .ok text) :
    Scans style.quote LooseOrDot text [style.token identifier] := by
  obtain ⟨-, written⟩ := refuse_eq_ok.mp written
  rw [token]
  split at written
  · rename_i quoted
    rw [if_pos quoted, ← Except.ok.inj written]
    exact scans_delimited apart _
  · rename_i bare
    rw [if_neg bare, ← Except.ok.inj written]
    exact scans_word apart (bare_of_needsQuotes (by simpa using bare)).1

private theorem scans_dotted {first second : String} {tokens others : List Token}
    (scansFirst : Scans style.quote LooseOrDot first tokens)
    (scansSecond : Scans style.quote LooseOrDot second others)
    (head : ∀ rest, ∀ d ∈ (second.toList ++ rest).head?, d.isDigit = false ∧ d ≠ '.') :
    Scans style.quote LooseOrDot (first ++ "." ++ second) (tokens ++ .symbol "." :: others) := by
  have dotted := scansFirst.append (scans_dot apart) fun rest _ c isHead => by
    obtain rfl : '.' = c := by simpa using isHead
    decide
  have whole := dotted.append scansSecond fun rest _ => head rest
  rwa [List.append_assoc, List.singleton_append] at whole

theorem Style.scans_tableName {table : TableName} {text : String}
    (written : style.tableName table = .ok text) :
    Scans style.quote LooseOrDot text (table.tokens style) := by
  obtain ⟨schema, name, span⟩ := table
  rw [tableName] at written
  cases schema with
  | some schema =>
      simp only [bind_eq_ok, pure_eq_ok] at written
      obtain ⟨schemaText, schemaWritten, nameText, nameWritten, rfl⟩ := written
      exact scans_dotted apart (scans_identifier apart schemaWritten)
        (scans_identifier apart nameWritten) (head_of_identifier apart nameWritten)
  | none => exact scans_identifier apart written

theorem Style.scans_column {kind : NodeKind} {table : Option TableName} {name : Identifier}
    {text : String} (written : style.column kind table name = .ok text) :
    Scans style.quote LooseOrDot text (columnTokens style table name) := by
  cases table with
  | some table =>
      simp only [column, bind_eq_ok, pure_eq_ok] at written
      obtain ⟨tableText, tableWritten, nameText, nameWritten, rfl⟩ := written
      exact scans_dotted apart (scans_tableName apart tableWritten)
        (scans_identifier apart nameWritten) (head_of_identifier apart nameWritten)
  | none => exact scans_identifier apart written

private theorem scans_parenthesize (wanted : Bool) {text : String} {tokens : List Token}
    (scans : Scans style.quote Loose text tokens) :
    Scans style.quote Loose (parenthesize wanted text) (Token.parensIf wanted tokens) := by
  cases wanted with
  | false => exact scans
  | true => exact (scans_parens apart scans).mono fun _ _ => trivial

theorem Style.scans_exprAt {rule : DataType → Prop} {expr : Expr} {depth : Nat} {text : String}
    (valid : (Node.expr expr).Valid rule) (written : style.exprAt depth expr = .ok text) :
    Scans style.quote Loose text (expr.tokens style) := by
  have word (word : String) (bare : isBareWord word) : Scans style.quote Loose word [.word word] :=
    (scans_word apart bare).mono fun _ => Loose.orDot
  induction expr generalizing depth text with
  | column table name span =>
      simp only [exprAt, andThen_eq_ok] at written
      exact (scans_column apart written.2).mono fun _ => Loose.orDot
  | number literal span =>
      simp only [exprAt, andThen_eq_ok, pure_eq_ok] at written
      obtain ⟨-, rfl⟩ := written
      exact scans_number apart (Node.valid_iff.mp valid).1
  | string value span =>
      simp only [exprAt, andThen_eq_ok, pure_eq_ok] at written
      obtain ⟨-, rfl⟩ := written
      exact (scans_literal apart value).mono fun _ => Loose.orDot
  | boolean value span =>
      simp only [exprAt, andThen_eq_ok, pure_eq_ok] at written
      obtain ⟨-, rfl⟩ := written
      cases value <;> exact word _ (by decide)
  | null span =>
      simp only [exprAt, andThen_eq_ok, pure_eq_ok] at written
      obtain ⟨-, rfl⟩ := written
      exact word _ (by decide)
  | binary op left right span ihLeft ihRight =>
      obtain ⟨-, below⟩ := Node.valid_iff.mp valid
      simp only [Node.children, Expr.children, List.forall_mem_cons] at below
      simp only [exprAt, bind_eq_ok, pure_eq_ok] at written
      obtain ⟨_, -, leftText, leftWritten, rightText, rightWritten, rfl⟩ := written
      have left := scans_parenthesize apart (left.binding < op.precedence)
        (ihLeft below.1 leftWritten)
      have right := scans_parenthesize apart (right.binding ≤ op.precedence)
        (ihRight below.2.1 rightWritten)
      have space := scans_space style.quote
      have upToOp := (left.append space fun _ _ => .cons (by decide)).append (scans_op apart op)
        fun _ _ => trivial
      have whole := (upToOp.append space fun _ _ => .cons (by decide)).append right
        fun _ _ => trivial
      simpa only [Expr.tokens, List.append_nil, List.append_assoc, List.singleton_append]
        using whole
  | not operand span ih =>
      obtain ⟨-, below⟩ := Node.valid_iff.mp valid
      simp only [exprAt, bind_eq_ok, pure_eq_ok] at written
      obtain ⟨_, -, text, written, rfl⟩ := written
      have operand := scans_parenthesize apart (operand.binding < notPrecedence)
        (ih (below _ (List.mem_singleton_self _)) written)
      have keyword : Scans style.quote _ "NOT " _ := scans_before apart ["NOT"] rfl rfl
      exact keyword.append operand fun _ _ => trivial
  | isNull operand negated span ih =>
      obtain ⟨-, below⟩ := Node.valid_iff.mp valid
      simp only [exprAt, bind_eq_ok, pure_eq_ok] at written
      obtain ⟨_, -, text, written, rfl⟩ := written
      have operand := scans_parenthesize apart (operand.binding ≤ isNullPrecedence)
        (ih (below _ (List.mem_singleton_self _)) written)
      cases negated with
      | false =>
          have test : Scans style.quote _ " IS NULL" _ :=
            scans_behind apart ["IS", "NULL"] rfl rfl
          exact operand.append (test.mono fun _ => Loose.orDot) fun _ _ => .cons (by decide)
      | true =>
          have test : Scans style.quote _ " IS NOT NULL" _ :=
            scans_behind apart ["IS", "NOT", "NULL"] rfl rfl
          exact operand.append (test.mono fun _ => Loose.orDot) fun _ _ => .cons (by decide)

end Text

/-! ## Meaning -/

/-- The grammar keeps no word for itself that is not reserved. -/
theorem grammarWords_subset_reservedWords : grammarWords ⊆ reservedWords := by
  decide

theorem Style.identifier?_token (style : Style) (identifier : Identifier) :
    (style.token identifier).identifier? = some (style.mark identifier) := by
  rw [token, mark]
  cases quoted : style.needsQuotes identifier with
  | true => rfl
  | false =>
      have free : upperCase identifier.name ∉ grammarWords := by
        intro kept
        have reserved := (bare_of_needsQuotes quoted).2
        rw [isReserved, List.contains_iff_mem.mpr (grammarWords_subset_reservedWords kept)]
          at reserved
        simp at reserved
      simp [Token.identifier?, free, Identifier.regular]

theorem derivesColumn_tokens (style : Style) (table : Option TableName) (name : Identifier) :
    DerivesColumn (columnTokens style table name) (table.map (TableName.relabel style.mark))
      (style.mark name) := by
  have named := style.identifier?_token
  cases table with
  | none => exact .plain (named name)
  | some table =>
      obtain ⟨schema, table, span⟩ := table
      cases schema with
      | none => exact .table {} (named table) (named name)
      | some schema => exact .schema {} (named schema) (named table) (named name)

/-- The level of the grammar to which an expression belongs. -/
def Expr.level : Expr → Level
  | .binary op .. => op.level
  | .not .. => .not
  | .isNull .. => .cmp
  | _ => .prim

theorem BinaryOp.precedence_eq_rank (op : BinaryOp) : op.precedence = op.level.rank := by
  cases op <;> rfl

/-- How tightly an expression binds as an operand is the rank of its level, except that nothing
    binds as tightly as a primary. -/
theorem Expr.binding_lt_iff {expr : Expr} {bound : Nat} (small : bound ≤ Level.prim.rank) :
    expr.binding < bound ↔ expr.level.rank < bound := by
  have primary : Level.prim.rank < atomPrecedence := by decide
  cases expr with
  | binary op left right span => rw [binding, level, BinaryOp.precedence_eq_rank]
  | not | isNull => exact Iff.rfl
  | _ => exact ⟨fun lower => absurd lower (by simp only [binding]; omega),
      fun lower => absurd lower (by simp only [level]; omega)⟩

/-- What a level derives, every weaker level derives too. -/
theorem Derives.weaken {level : Level} {tokens : List Token} {e : Expr}
    (derives : Derives level tokens e) {weaker : Level} (below : weaker.rank ≤ level.rank) :
    Derives weaker tokens e := by
  induction steps : level.rank - weaker.rank generalizing weaker with
  | zero =>
      have same : weaker = level := by
        cases weaker <;> cases level <;> first | rfl | (simp [Level.rank] at steps below)
      exact same ▸ derives
  | succ n ih =>
      have above : weaker ≠ .prim := by
        rintro rfl
        cases level <;> simp [Level.rank] at steps
      have next := Level.rank_tighter above
      exact .lift above (ih (by omega) (by omega))

/-- An operand in parentheses stands anywhere; a bare one where its level is tight enough. -/
private theorem derives_operand {expr e : Expr} {tokens : List Token} {level : Level}
    {wanted : Bool} (derives : Derives expr.level tokens e)
    (free : wanted = false → level.rank ≤ expr.level.rank) :
    Derives level (Token.parensIf wanted tokens) e := by
  cases wanted with
  | false => exact derives.weaken (free rfl)
  | true =>
      have whole : Derives .or tokens e :=
        derives.weaken (by cases expr.level <;> decide)
      exact (Derives.parens whole).weaken (by cases level <;> decide)

/-- The tokens of an expression derive it, at its level. -/
theorem Expr.derives_tokens {rule : DataType → Prop} (style : Style) {expr : Expr}
    (valid : (Node.expr expr).Valid rule) :
    Derives expr.level (expr.tokens style) (expr.relabel style.mark) := by
  induction expr with
  | column table name span => exact .column {} (derivesColumn_tokens style table name)
  | number literal span => exact .number {} (Node.valid_iff.mp valid).1
  | string value span => exact .string value {}
  | boolean value span => cases value with
      | false => exact .false {}
      | true => exact .true {}
  | null span => exact .null {}
  | binary op left right span ihLeft ihRight =>
      obtain ⟨-, below⟩ := Node.valid_iff.mp valid
      simp only [Node.children, children, List.forall_mem_cons] at below
      have above : op.level ≠ .prim := by cases op <;> decide
      have next := Level.rank_tighter above
      have small : op.level.tighter.rank ≤ Level.prim.rank := by
        cases op.level.tighter <;> decide
      refine .binary {} (derives_operand (ihLeft below.1) fun free => ?_)
        (derives_operand (ihRight below.2.1) fun free => ?_)
      · rw [decide_eq_false_iff_not, BinaryOp.precedence_eq_rank, binding_lt_iff (by omega)] at free
        exact Nat.le_of_not_lt free
      · rw [decide_eq_false_iff_not, BinaryOp.precedence_eq_rank, ← Nat.lt_add_one_iff, ← next,
          binding_lt_iff small] at free
        exact Nat.le_of_not_lt free
  | not operand span ih =>
      obtain ⟨-, below⟩ := Node.valid_iff.mp valid
      refine .not {} (derives_operand (ih (below _ (List.mem_singleton_self _))) fun free => ?_)
      rw [decide_eq_false_iff_not, binding_lt_iff (by decide)] at free
      exact Nat.le_of_not_lt free
  | isNull operand negated span ih =>
      obtain ⟨-, below⟩ := Node.valid_iff.mp valid
      have inner := ih (below _ (List.mem_singleton_self _))
      have tight : Derives .add
          (Token.parensIf (operand.binding ≤ isNullPrecedence) (operand.tokens style))
          (operand.relabel style.mark) := by
        refine derives_operand inner fun free => ?_
        rw [decide_eq_false_iff_not, ← Nat.lt_add_one_iff, binding_lt_iff (by decide)] at free
        exact Nat.le_of_not_lt free
      cases negated with
      | false => exact .isNull {} tight
      | true => exact .isNotNull {} tight

theorem Expr.derives_or_tokens {rule : DataType → Prop} (style : Style) {expr : Expr}
    (valid : (Node.expr expr).Valid rule) :
    Derives .or (expr.tokens style) (expr.relabel style.mark) :=
  (expr.derives_tokens style valid).weaken (by cases expr.level <;> decide)

/-! ## Rendering succeeds -/

theorem Style.identifier_ok {style : Style} {kind : NodeKind} {identifier : Identifier}
    (named : identifier.isEmpty = false) : ∃ text, style.identifier kind identifier = .ok text := by
  rw [Style.identifier, named]
  split
  · contradiction
  · split <;> exact ⟨_, rfl⟩

theorem Style.tableName_ok {style : Style} {table : TableName} (rules : table.WellFormed) :
    ∃ text, style.tableName table = .ok text := by
  obtain ⟨name, named⟩ : ∃ text, style.identifier .tableName table.name = .ok text :=
    identifier_ok rules.named
  rw [tableName]
  cases isSchema : table.schema with
  | none => exact ⟨name, named⟩
  | some schema =>
      obtain ⟨schemaText, schemaNamed⟩ : ∃ text, style.identifier .tableName schema = .ok text :=
        identifier_ok (rules.schemaNamed schema isSchema)
      simp only [schemaNamed, named]
      exact ⟨_, rfl⟩

theorem Style.column_ok {style : Style} {kind : NodeKind} {table : Option TableName}
    {name : Identifier} (named : name.isEmpty = false)
    (rules : ∀ schema ∈ table, schema.WellFormed) :
    ∃ text, style.column kind table name = .ok text := by
  obtain ⟨nameText, written⟩ : ∃ text, style.identifier kind name = .ok text := identifier_ok named
  cases table with
  | none => exact ⟨nameText, written⟩
  | some table =>
      obtain ⟨tableText, tableWritten⟩ : ∃ text, style.tableName table = .ok text :=
        tableName_ok (rules table rfl)
      rw [column, tableWritten, written]
      exact ⟨_, rfl⟩

/-- An expression that keeps the rules has a text, however deep it is, if no depth is too deep. -/
theorem Style.exprAt_ok {rule : DataType → Prop} {style : Style} (unlimited : style.maxDepth = none)
    {expr : Expr} (valid : (Node.expr expr).Valid rule) (depth : Nat) :
    ∃ text, style.exprAt depth expr = .ok text := by
  have free := checkDepth_unlimited unlimited
  induction expr generalizing depth with
  | column table name span =>
      obtain ⟨named, below⟩ := Node.valid_iff.mp valid
      rw [exprAt, free]
      refine column_ok named fun part isPart => ?_
      exact (Node.valid_iff.mp (below _ (List.mem_map_of_mem (Option.mem_toList.mpr isPart)))).1
  | number | string | boolean | null =>
      rw [exprAt, free]
      exact ⟨_, rfl⟩
  | binary op left right span ihLeft ihRight =>
      obtain ⟨-, below⟩ := Node.valid_iff.mp valid
      simp only [Node.children, Expr.children, List.forall_mem_cons] at below
      obtain ⟨leftText, leftWritten⟩ := ihLeft below.1 (depth + 1)
      obtain ⟨rightText, rightWritten⟩ := ihRight below.2.1 (depth + 1)
      rw [exprAt, free, leftWritten, rightWritten]
      exact ⟨_, rfl⟩
  | not operand span ih | isNull operand negated span ih =>
      obtain ⟨-, below⟩ := Node.valid_iff.mp valid
      obtain ⟨text, written⟩ := ih (below _ (List.mem_singleton_self _)) (depth + 1)
      rw [exprAt, free, written]
      exact ⟨_, rfl⟩

/-! ## Rendered expressions -/

/-- The text of an expression derives the expression and no other one. -/
theorem Style.derives_of_expr {rule : DataType → Prop} {style : Style}
    (apart : StandsApart style.quote) {expr : Expr} {text : String}
    (valid : (Node.expr expr).Valid rule) (written : style.expr expr = .ok text) :
    Derives .or (Token.scan style.quote text.toList) (expr.relabel style.mark) ∧
      ∀ e, Derives .or (Token.scan style.quote text.toList) e →
        e.erase = expr.relabel style.mark := by
  have scanned := (scans_exprAt apart valid written).scan_eq
  have own := expr.derives_or_tokens style valid
  rw [scanned]
  refine ⟨own, fun e derives => ?_⟩
  rw [derives.unique own, Expr.erase_relabel]

/-- Rendered expressions mean the tree they came from: every reachable expression has a text, the
    text derives the expression, and every expression that the text derives equals it up to
    positions and to marks that are written anyway. -/
theorem rendered_expr_meaning {expr : Expr} (reachable : Reachable (fun _ => True) (.expr expr)) :
    ∃ text, (Node.expr expr).render = .ok text ∧
      Derives .or (Token.scan '"' text.toList) (expr.relabel (Style.mark {})) ∧
      ∀ e, Derives .or (Token.scan '"' text.toList) e → e.erase = expr.relabel (Style.mark {}) := by
  have valid : (Node.expr expr).Valid fun _ => True :=
    reachable.valid (fun _ _ => trivial) fun _ _ => trivial
  obtain ⟨text, written⟩ : ∃ text, Style.exprAt {} 0 expr = .ok text :=
    Style.exprAt_ok rfl valid 0
  have apart : StandsApart (Style.quote {}) := ⟨by decide, by decide⟩
  exact ⟨text, written, Style.derives_of_expr apart valid written⟩

/-- A negated conjunction keeps its parentheses, and is read as nothing else. -/
theorem rendered_expr_meaning_not :
    (Node.expr (.not (.binary .and (.column none (.regular "a") {}) (.null {}) {}) {})).render
        = .ok "NOT (a AND NULL)" ∧
      Derives .or (Token.scan '"' "NOT (a AND NULL)".toList)
        (.not (.binary .and (.column none (.regular "a") {}) (.null {}) {}) {}) ∧
      ∀ e, Derives .or (Token.scan '"' "NOT (a AND NULL)".toList) e →
        e.erase = .not (.binary .and (.column none (.regular "a") {}) (.null {}) {}) {} := by
  have construct {node : Node} (built : Constructed (fun _ => True) {} node)
      (parts : ∀ child ∈ node.children, Reachable (fun _ => True) child) :
      Reachable (fun _ => True) node := .construct built parts
  have named : Expr.buildColumn none (.regular "a") = .ok (.column none (.regular "a") {}) := rfl
  have column := construct (.column named) (by simp [Node.children, Expr.children])
  have null := construct .null (by simp [Node.children, Expr.children])
  have both := construct (.binary .and _ _)
    (List.forall_mem_cons.mpr ⟨column, List.forall_mem_singleton.mpr null⟩)
  have negated := construct (.not _) (List.forall_mem_singleton.mpr both)
  obtain ⟨text, written, meaning⟩ := rendered_expr_meaning negated
  obtain rfl : "NOT (a AND NULL)" = text := Except.ok.inj written
  exact ⟨written, meaning⟩

end DdlTree
