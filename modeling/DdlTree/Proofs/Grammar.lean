import DdlTree.Proofs.Relabel
import DdlTree.Proofs.Token

/-! # The grammar of expressions

The reference grammar of value expressions over tokens, one level for each strength of operators:

    or   ::= and  | or OR and
    and  ::= not  | and AND not
    not  ::= cmp  | NOT not
    cmp  ::= add  | cmp (= | <> | < | <= | > | >=) add | add IS [NOT] NULL
    add  ::= mul  | add (+ | -) mul
    mul  ::= prim | mul (* | /) prim
    prim ::= [[schema.]table.]column | number | string | TRUE | FALSE | NULL | ( or )

No tokens are derived from two expressions. A reader that descends through the levels follows every
derivation, and it has only one result.
-/

namespace DdlTree

/-- A level of the grammar, the weakest operators first. -/
inductive Level where
  | or
  | and
  | not
  | cmp
  | add
  | mul
  | prim
  deriving Repr, DecidableEq

namespace Level

/-- The next level; nothing is tighter than a primary. -/
def tighter : Level → Level
  | .or => .and
  | .and => .not
  | .not => .cmp
  | .cmp => .add
  | .add => .mul
  | .mul => .prim
  | .prim => .prim

def rank : Level → Nat
  | .or => 1
  | .and => 2
  | .not => 3
  | .cmp => 4
  | .add => 5
  | .mul => 6
  | .prim => 7

theorem rank_tighter {level : Level} (above : level ≠ .prim) :
    level.tighter.rank = level.rank + 1 := by
  cases level <;> first | rfl | contradiction

theorem rank_lt_tighter {level : Level} (above : level ≠ .prim) :
    level.rank < level.tighter.rank := by
  rw [rank_tighter above]
  exact Nat.lt_succ_self _

theorem rank_le_tighter (level : Level) : level.rank ≤ level.tighter.rank := by
  cases level <;> decide

end Level

/-- The level at which an operator joins its operands. -/
def BinaryOp.level : BinaryOp → Level
  | .or => .or
  | .and => .and
  | .eq | .notEq | .lt | .ltEq | .gt | .gtEq => .cmp
  | .plus | .minus => .add
  | .multiply | .divide => .mul

/-- The words that the grammar keeps for itself, in upper case. -/
def grammarWords : List String :=
  ["OR", "AND", "NOT", "IS", "NULL", "TRUE", "FALSE"]

def Token.identifier? : Token → Option Identifier
  | .word text => if grammarWords.contains (upperCase text) then none else some (.regular text)
  | .delimited name => some (.delimited name)
  | _ => none

/-- The tokens of a column under an optional table. -/
inductive DerivesColumn : List Token → Option TableName → Identifier → Prop where
  | plain {c column} (isColumn : c.identifier? = some column) : DerivesColumn [c] none column
  | table {t c table column} (span) (isTable : t.identifier? = some table)
    (isColumn : c.identifier? = some column) :
    DerivesColumn [t, .symbol ".", c] (some ⟨none, table, span⟩) column
  | schema {s t c schema table column} (span) (isSchema : s.identifier? = some schema)
    (isTable : t.identifier? = some table) (isColumn : c.identifier? = some column) :
    DerivesColumn [s, .symbol ".", t, .symbol ".", c] (some ⟨some schema, table, span⟩) column

/-- Tokens that a level of the grammar derives, and an expression that they can mean. Positions are
    no part of the grammar. -/
inductive Derives : Level → List Token → Expr → Prop where
  | lift {level tokens e} (above : level ≠ .prim) (tighter : Derives level.tighter tokens e) :
    Derives level tokens e
  | binary {op left right leftTokens rightTokens} (span)
    (isLeft : Derives (BinaryOp.level op) leftTokens left)
    (isRight : Derives op.level.tighter rightTokens right) :
    Derives op.level (leftTokens ++ op.token :: rightTokens) (.binary op left right span)
  | not {operand tokens} (span) (isOperand : Derives .not tokens operand) :
    Derives .not (.word "NOT" :: tokens) (.not operand span)
  | isNull {operand tokens} (span) (isOperand : Derives .add tokens operand) :
    Derives .cmp (tokens ++ [.word "IS", .word "NULL"]) (.isNull operand false span)
  | isNotNull {operand tokens} (span) (isOperand : Derives .add tokens operand) :
    Derives .cmp (tokens ++ [.word "IS", .word "NOT", .word "NULL"]) (.isNull operand true span)
  | column {tokens table name} (span) (isColumn : DerivesColumn tokens table name) :
    Derives .prim tokens (.column table name span)
  | number {literal} (span) (numeral : Numeral.isNumeral literal) :
    Derives .prim [.number literal] (.number literal span)
  | string (value span) : Derives .prim [.literal value] (.string value span)
  | true (span) : Derives .prim [.word "TRUE"] (.boolean Bool.true span)
  | false (span) : Derives .prim [.word "FALSE"] (.boolean Bool.false span)
  | null (span) : Derives .prim [.word "NULL"] (.null span)
  | parens {tokens e} (inside : Derives .or tokens e) : Derives .prim (Token.parens tokens) e

/-! ## A reader -/

/-- The identifiers of a dotted path, and what comes after it. -/
def readPath : List Token → Option (List Identifier × List Token)
  | [] => none
  | t :: rest =>
      match t.identifier? with
      | none => none
      | some identifier =>
          match rest with
          | [] => some ([identifier], [])
          | dot :: more =>
              if dot = .symbol "." then
                (readPath more).map fun path => (identifier :: path.1, path.2)
              else some ([identifier], dot :: more)

def columnOfPath : List Identifier → Option Expr
  | [column] => some (.column none column {})
  | [table, column] => some (.column (some ⟨none, table, {}⟩) column {})
  | [schema, table, column] => some (.column (some ⟨some schema, table, {}⟩) column {})
  | _ => none

def atom? : Token → Option Expr
  | .number literal => some (.number literal {})
  | .literal value => some (.string value {})
  | .word text =>
      if text = "TRUE" then some (.boolean true {})
      else if text = "FALSE" then some (.boolean false {})
      else if text = "NULL" then some (.null {})
      else none
  | _ => none

/-- What a null test says after its first word, and what comes after it. -/
def nullTest? : List Token → Option (Bool × List Token)
  | [] => none
  | t :: rest =>
      if t = .word "NULL" then some (false, rest)
      else if t = .word "NOT" ∧ rest.head? = some (.word "NULL") then some (true, rest.tail)
      else none

def infix? (level : Level) (t : Token) : Option BinaryOp :=
  BinaryOp.all.find? fun op => op.level = level ∧ op.token = t

mutual
/-- Read an expression of a level at the start of tokens, in a limited number of calls. -/
def read : Nat → Level → List Token → Option (Expr × List Token)
  | 0, _, _ => none
  | calls + 1, level, tokens =>
      if level = .prim then
        match tokens with
        | [] => none
        | t :: rest =>
            match atom? t with
            | some e => some (e, rest)
            | none =>
                if t = .symbol "(" then
                  match read calls .or rest with
                  | some (e, close :: after) =>
                      if close = .symbol ")" then some (e, after) else none
                  | _ => none
                else
                  match readPath tokens with
                  | some (path, after) => (columnOfPath path).map (·, after)
                  | none => none
      else if level = .not ∧ tokens.head? = some (.word "NOT") then
        (read calls .not tokens.tail).map fun result => (.not result.1 {}, result.2)
      else
        match read calls level.tighter tokens with
        | some (left, rest) => grow calls level left rest
        | none => none

def grow : Nat → Level → Expr → List Token → Option (Expr × List Token)
  | 0, _, _, _ => none
  | _ + 1, _, left, [] => some (left, [])
  | calls + 1, level, left, t :: rest =>
      match infix? level t with
      | some op =>
          match read calls level.tighter rest with
          | some (right, after) => grow calls level (.binary op left right {}) after
          | none => none
      | none =>
          if level = .cmp ∧ t = .word "IS" then
            match nullTest? rest with
            | some (negated, after) => grow calls level (.isNull left negated {}) after
            | none => none
          else some (left, t :: rest)
end

/-- The reader has a result, given enough calls. -/
def Reads (level : Level) (tokens : List Token) (result : Expr × List Token) : Prop :=
  ∃ enough, ∀ calls, enough ≤ calls → read calls level tokens = some result

/-- The reader gets from a left operand to a result, given enough calls. -/
def Grows (level : Level) (left : Expr) (tokens : List Token) (result : Expr × List Token) : Prop :=
  ∃ enough, ∀ calls, enough ≤ calls → grow calls level left tokens = some result

section Reader

variable {level : Level} {left e : Expr} {tokens rest : List Token} {result : Expr × List Token}

private theorem reads_atom {t : Token} (isAtom : atom? t = some e) :
    Reads .prim (t :: rest) (e, rest) := by
  refine ⟨1, fun calls enough => ?_⟩
  obtain ⟨calls, rfl⟩ : ∃ k, calls = k + 1 := ⟨calls - 1, by omega⟩
  simp only [read, ↓reduceIte, isAtom]

private theorem reads_parens (inside : Reads .or tokens (e, .symbol ")" :: rest)) :
    Reads .prim (.symbol "(" :: tokens) (e, rest) := by
  obtain ⟨enough, reads⟩ := inside
  refine ⟨enough + 1, fun calls more => ?_⟩
  obtain ⟨calls, rfl⟩ : ∃ k, calls = k + 1 := ⟨calls - 1, by omega⟩
  simp only [read, ↓reduceIte, atom?, reads calls (by omega)]

private theorem reads_path {t : Token} {path : List Identifier} (notAtom : atom? t = none)
    (notParen : t ≠ .symbol "(") (isPath : readPath (t :: tokens) = some (path, rest))
    (isColumn : columnOfPath path = some e) : Reads .prim (t :: tokens) (e, rest) := by
  refine ⟨1, fun calls enough => ?_⟩
  obtain ⟨calls, rfl⟩ : ∃ k, calls = k + 1 := ⟨calls - 1, by omega⟩
  simp only [read, ↓reduceIte, notAtom, if_neg notParen, isPath, isColumn, Option.map_some]

private theorem reads_not (operand : Reads .not tokens (e, rest)) :
    Reads .not (.word "NOT" :: tokens) (.not e {}, rest) := by
  obtain ⟨enough, reads⟩ := operand
  refine ⟨enough + 1, fun calls more => ?_⟩
  obtain ⟨calls, rfl⟩ : ∃ k, calls = k + 1 := ⟨calls - 1, by omega⟩
  simp only [read, List.head?_cons, List.tail_cons, reads calls (by omega), reduceCtorEq,
    ↓reduceIte, and_self, Option.map_some]

/-- A level is read by reading its first operand and going on from there. -/
private theorem reads_of_grows (above : level ≠ .prim)
    (notNot : level = .not → tokens.head? ≠ some (.word "NOT"))
    (first : Reads level.tighter tokens (left, rest)) (grows : Grows level left rest result) :
    Reads level tokens result := by
  obtain ⟨enoughFirst, reads⟩ := first
  obtain ⟨enoughGrow, grows⟩ := grows
  refine ⟨max enoughFirst enoughGrow + 1, fun calls more => ?_⟩
  obtain ⟨calls, rfl⟩ : ∃ k, calls = k + 1 := ⟨calls - 1, by omega⟩
  have notBoth : ¬(level = .not ∧ tokens.head? = some (.word "NOT")) := fun both =>
    notNot both.1 both.2
  simp only [read, if_neg above, if_neg notBoth, reads calls (by omega)]
  exact grows calls (by omega)

/-- Nothing goes on an expression of a level: no operator of the level, and no null test. -/
private theorem grows_stop (noOperator : ∀ t ∈ tokens.head?, infix? level t = none)
    (noTest : level = .cmp → tokens.head? ≠ some (.word "IS")) :
    Grows level left tokens (left, tokens) := by
  refine ⟨1, fun calls enough => ?_⟩
  obtain ⟨calls, rfl⟩ : ∃ k, calls = k + 1 := ⟨calls - 1, by omega⟩
  cases tokens with
  | nil => rfl
  | cons t rest =>
      simp only [List.head?_cons, Option.mem_def, Option.some.injEq, forall_eq']
        at noOperator noTest
      rw [grow, noOperator]
      simp only
      rw [if_neg fun both => noTest both.1 (congrArg some both.2)]

private theorem infix?_token (op : BinaryOp) : infix? op.level op.token = some op := by
  cases op <;> decide

private theorem grows_binary {op : BinaryOp} {right : Expr} {after : List Token}
    (reads : Reads op.level.tighter tokens (right, after))
    (grows : Grows op.level (.binary op left right {}) after result) :
    Grows op.level left (op.token :: tokens) result := by
  obtain ⟨enoughRight, reads⟩ := reads
  obtain ⟨enoughGrow, grows⟩ := grows
  refine ⟨max enoughRight enoughGrow + 1, fun calls more => ?_⟩
  obtain ⟨calls, rfl⟩ : ∃ k, calls = k + 1 := ⟨calls - 1, by omega⟩
  simp only [grow, infix?_token, reads calls (by omega)]
  exact grows calls (by omega)

private theorem grows_isNull {negated : Bool} (test : nullTest? tokens = some (negated, rest))
    (grows : Grows .cmp (.isNull left negated {}) rest result) :
    Grows .cmp left (.word "IS" :: tokens) result := by
  obtain ⟨enough, grows⟩ := grows
  refine ⟨enough + 1, fun calls more => ?_⟩
  obtain ⟨calls, rfl⟩ : ∃ k, calls = k + 1 := ⟨calls - 1, by omega⟩
  have noOperator : infix? .cmp (.word "IS") = none := by decide
  simp only [grow, noOperator, and_self, ↓reduceIte, test]
  exact grows calls (by omega)

private theorem Grows.unique {result other : Expr × List Token}
    (first : Grows level left tokens result) (second : Grows level left tokens other) :
    result = other := by
  obtain ⟨enoughFirst, first⟩ := first
  obtain ⟨enoughSecond, second⟩ := second
  have same := (first (max enoughFirst enoughSecond) (by omega)).symm.trans
    (second (max enoughFirst enoughSecond) (by omega))
  exact Option.some.inj same

private theorem Reads.unique {result other : Expr × List Token} (first : Reads level tokens result)
    (second : Reads level tokens other) : result = other := by
  obtain ⟨enoughFirst, first⟩ := first
  obtain ⟨enoughSecond, second⟩ := second
  have same := (first (max enoughFirst enoughSecond) (by omega)).symm.trans
    (second (max enoughFirst enoughSecond) (by omega))
  exact Option.some.inj same

end Reader

/-! ## The reader follows every derivation -/

/-- What comes next does not go on an expression of a level: no dot, and no operator or null test
    that binds more tightly than the level. -/
def Stops (level : Level) (rest : List Token) : Prop :=
  ∀ t ∈ rest.head?, t ≠ .symbol "." ∧ (∀ op : BinaryOp, op.token = t → op.level.rank ≤ level.rank) ∧
    (t = .word "IS" → Level.cmp.rank ≤ level.rank)

/-- What comes next goes on no expression. -/
def Ends (rest : List Token) : Prop :=
  ∀ t ∈ rest.head?, t ≠ .symbol "." ∧ (∀ op : BinaryOp, op.token ≠ t) ∧ t ≠ .word "IS"

theorem ends_nil : Ends [] := by
  intro t isHead
  simp at isHead

private theorem ends_closing (rest : List Token) : Ends (.symbol ")" :: rest) := by
  intro t isHead
  obtain rfl : Token.symbol ")" = t := by simpa using isHead
  exact ⟨by decide, fun op => by cases op <;> decide, by decide⟩

theorem Ends.stops {rest : List Token} (ends : Ends rest) (level : Level) : Stops level rest := by
  intro t isHead
  obtain ⟨notDot, noOperator, noTest⟩ := ends t isHead
  exact ⟨notDot, fun op same => absurd same (noOperator op), fun same => absurd same noTest⟩

private theorem Stops.mono {level other : Level} {rest : List Token} (stops : Stops level rest)
    (below : level.rank ≤ other.rank) : Stops other rest := by
  intro t isHead
  obtain ⟨notDot, operator, test⟩ := stops t isHead
  exact ⟨notDot, fun op same => (operator op same).trans below, fun same => (test same).trans below⟩

private theorem infix?_eq_some {level : Level} {t : Token} {op : BinaryOp}
    (isInfix : infix? level t = some op) : op.level = level ∧ op.token = t := by
  simpa using List.find?_some isInfix

/-- Nothing that stops a level goes on an expression of a tighter one. -/
private theorem Stops.grows {level other : Level} {rest : List Token} {left : Expr}
    (stops : Stops level rest) (below : level.rank < other.rank) :
    Grows other left rest (left, rest) := by
  apply grows_stop
  · intro t isHead
    cases found : infix? other t with
    | none => rfl
    | some op =>
        obtain ⟨rfl, rfl⟩ := infix?_eq_some found
        have bound := (stops _ isHead).2.1 op rfl
        omega
  · rintro rfl isHead
    have bound := (stops _ isHead).2.2 rfl
    omega

private theorem Ends.grows {level : Level} {rest : List Token} {left : Expr} (ends : Ends rest) :
    Grows level left rest (left, rest) := by
  apply grows_stop
  · intro t isHead
    cases found : infix? level t with
    | none => rfl
    | some op => exact absurd (infix?_eq_some found).2 ((ends t isHead).2.1 op)
  · exact fun _ isHead => (ends _ isHead).2.2 rfl

private theorem grows_of_noInfix {level : Level} {left : Expr} {rest : List Token}
    (noInfix : level = .not ∨ level = .prim) : Grows level left rest (left, rest) := by
  apply grows_stop
  · intro t _
    cases found : infix? level t with
    | none => rfl
    | some op =>
        obtain ⟨rfl, -⟩ := infix?_eq_some found
        cases op <;> simp [BinaryOp.level] at noInfix
  · rintro rfl
    simp at noInfix

private theorem Token.not_of_identifier? {t : Token} {i : Identifier}
    (isIdentifier : t.identifier? = some i) :
    atom? t = none ∧ t ≠ .symbol "(" ∧ t ≠ .word "NOT" := by
  cases t with
  | word text =>
      have free : grammarWords.contains (upperCase text) = false := by
        simp only [Token.identifier?] at isIdentifier
        split at isIdentifier
        · simp at isIdentifier
        · rename_i free
          simpa using free
      have differs (word : String) (kept : grammarWords.contains (upperCase word) = true) :
          text ≠ word := by
        rintro rfl
        exact absurd (kept.symm.trans free) (by decide)
      have notTrue := differs "TRUE" (by decide)
      have notFalse := differs "FALSE" (by decide)
      have notNull := differs "NULL" (by decide)
      have notNot := differs "NOT" (by decide)
      simp [atom?, notTrue, notFalse, notNull, notNot]
  | delimited name => simp [atom?]
  | _ => simp [Token.identifier?] at isIdentifier

/-- Below a negation no expression starts with its word. -/
private theorem Derives.head_ne_not {level : Level} {tokens : List Token} {e : Expr}
    (derives : Derives level tokens e) (tight : Level.not.rank < level.rank) (rest : List Token) :
    (tokens ++ rest).head? ≠ some (.word "NOT") := by
  induction derives generalizing rest with
  | @lift level _ _ above _ ih =>
      exact ih (tight.trans_le level.rank_le_tighter) rest
  | binary span isLeft _ ihLeft _ =>
      rw [List.append_assoc]
      exact ihLeft tight _
  | not => exact absurd tight (by decide)
  | isNull span _ ih | isNotNull span _ ih =>
      rw [List.append_assoc]
      exact ih (by decide) _
  | column span isColumn =>
      cases isColumn with
      | plain is | table _ is _ | schema _ is _ _ =>
          simpa using (Token.not_of_identifier? is).2.2
  | _ => simp [Token.parens]

private theorem readPath_of_derivesColumn {tokens : List Token} {table : Option TableName}
    {name : Identifier} (isColumn : DerivesColumn tokens table name) {rest : List Token}
    (noDot : ∀ t ∈ rest.head?, t ≠ .symbol ".") :
    ∃ t more path, tokens = t :: more ∧ atom? t = none ∧ t ≠ .symbol "(" ∧
      readPath (t :: (more ++ rest)) = some (path, rest) ∧
        columnOfPath path = some (Expr.erase (.column table name {})) := by
  have last {t : Token} {i : Identifier} (isIdentifier : t.identifier? = some i) :
      readPath (t :: rest) = some ([i], rest) := by
    cases rest with
    | nil => simp [readPath, isIdentifier]
    | cons dot more => simp [readPath, isIdentifier, noDot dot rfl]
  have notLast {t : Token} {i : Identifier} (isIdentifier : t.identifier? = some i)
      {more : List Token} {path : List Identifier} (isPath : readPath more = some (path, rest)) :
      readPath (t :: .symbol "." :: more) = some (i :: path, rest) := by
    simp [readPath, isIdentifier, isPath]
  cases isColumn with
  | plain isColumn =>
      obtain ⟨notAtom, notParen, -⟩ := Token.not_of_identifier? isColumn
      exact ⟨_, _, _, rfl, notAtom, notParen, last isColumn, rfl⟩
  | table span isTable isColumn =>
      obtain ⟨notAtom, notParen, -⟩ := Token.not_of_identifier? isTable
      exact ⟨_, _, _, rfl, notAtom, notParen, notLast isTable (last isColumn), rfl⟩
  | schema span isSchema isTable isColumn =>
      obtain ⟨notAtom, notParen, -⟩ := Token.not_of_identifier? isSchema
      exact ⟨_, _, _, rfl, notAtom, notParen, notLast isSchema (notLast isTable (last isColumn)),
        rfl⟩

/-- An operator stops its left operand. -/
private theorem stops_operator (op : BinaryOp) (rest : List Token) :
    Stops op.level (op.token :: rest) := by
  intro t isHead
  obtain rfl : op.token = t := by simpa using isHead
  refine ⟨by cases op <;> decide, fun other same => ?_, fun same => ?_⟩
  · cases op <;> cases other <;> first | decide | simp [BinaryOp.token, BinaryOp.symbol] at same
  · cases op <;> simp [BinaryOp.token] at same

/-- A null test stops the operands of comparisons. -/
private theorem stops_isNull (rest : List Token) : Stops .cmp (.word "IS" :: rest) := by
  intro t isHead
  obtain rfl : Token.word "IS" = t := by simpa using isHead
  exact ⟨by decide, fun op => by cases op <;> decide, fun _ => le_rfl⟩

/-- The reader finds what a level derives, and goes on from there at the same level. -/
theorem Derives.reads {level : Level} {tokens : List Token} {e : Expr}
    (derives : Derives level tokens e) {rest : List Token} {result : Expr × List Token}
    (stops : Stops level rest) (grows : Grows level e.erase rest result) :
    Reads level (tokens ++ rest) result := by
  induction derives generalizing rest result with
  | @lift level tokens e above tighter ih =>
      have below := Level.rank_lt_tighter above
      apply reads_of_grows above _ (ih (stops.mono below.le) (stops.grows below)) grows
      rintro rfl
      exact tighter.head_ne_not (by decide) rest
  | @binary op left right leftTokens rightTokens span _ _ ihLeft ihRight =>
      have above : op.level ≠ .prim := by cases op <;> decide
      have below := Level.rank_lt_tighter above
      have right := ihRight (stops.mono below.le) (stops.grows below)
      rw [List.append_assoc, List.cons_append]
      exact ihLeft (stops_operator op _) (grows_binary right grows)
  | not span _ ih =>
      obtain rfl := grows.unique (grows_of_noInfix (.inl rfl))
      exact reads_not (ih stops (grows_of_noInfix (.inl rfl)))
  | isNull span _ ih =>
      have stopsTest := stops_isNull (.word "NULL" :: rest)
      have operand := ih (stopsTest.mono (by decide)) (stopsTest.grows (by decide))
      rw [List.append_assoc]
      exact reads_of_grows (by decide) nofun operand (grows_isNull rfl grows)
  | isNotNull span _ ih =>
      have stopsTest := stops_isNull (.word "NOT" :: .word "NULL" :: rest)
      have operand := ih (stopsTest.mono (by decide)) (stopsTest.grows (by decide))
      rw [List.append_assoc]
      exact reads_of_grows (by decide) nofun operand (grows_isNull rfl grows)
  | column span isColumn =>
      obtain rfl := grows.unique (grows_of_noInfix (.inr rfl))
      obtain ⟨t, more, path, rfl, notAtom, notParen, isPath, named⟩ :=
        readPath_of_derivesColumn isColumn fun t isHead => (stops t isHead).1
      exact reads_path notAtom notParen isPath named
  | number | string | true | false | null =>
      obtain rfl := grows.unique (grows_of_noInfix (.inr rfl))
      exact reads_atom rfl
  | parens inside ih =>
      obtain rfl := grows.unique (grows_of_noInfix (.inr rfl))
      have ends := ends_closing rest
      have read := ih (ends.stops .or) ends.grows
      rw [Token.parens, List.cons_append, List.append_assoc]
      exact reads_parens read

/-- Two expressions from the same tokens, with nothing after them that could go on either, are the
    same up to positions, and take up the same tokens. -/
theorem Derives.cancel {tokens others rest after : List Token} {a b : Expr}
    (derivesA : Derives .or tokens a) (derivesB : Derives .or others b) (ends : Ends rest)
    (endsAfter : Ends after) (same : tokens ++ rest = others ++ after) :
    a.erase = b.erase ∧ rest = after := by
  have readsA := derivesA.reads (ends.stops .or) ends.grows
  have readsB := derivesB.reads (endsAfter.stops .or) endsAfter.grows
  rw [← same] at readsB
  exact Prod.mk.inj (readsA.unique readsB)

/-- The grammar is unambiguous. -/
theorem Derives.unique {tokens : List Token} {a b : Expr} (derivesA : Derives .or tokens a)
    (derivesB : Derives .or tokens b) : a.erase = b.erase :=
  (derivesA.cancel derivesB ends_nil ends_nil rfl).1

end DdlTree
