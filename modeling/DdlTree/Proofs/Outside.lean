import DdlTree.Proofs.Region

/-! # Outside of quoted regions

What stands in a text outside of its quoted regions. A mark that is written twice closes a region
and opens it again at once, so the characters can be taken one by one. The parentheses outside of
quoted regions are the parentheses among the tokens.
-/

namespace DdlTree

open Text

/-- The mark of the quoted region after a character, if there is a region. -/
def Text.regionAfter (quote : Char) : Option Char → Char → Option Char
  | none, c => if c = '\'' ∨ c = quote then some c else none
  | some mark, c => if c = mark then none else some mark

/-- The mark of the quoted region in which a text ends, if it ends in one. -/
def Text.region (quote : Char) (text : String) : Option Char :=
  text.toList.foldl (regionAfter quote) none

/-- The characters outside of quoted regions, without the marks. -/
def Text.outside (quote : Char) (region : Option Char) : List Char → List Char
  | [] => []
  | c :: cs =>
      let after := regionAfter quote region c
      if region.isNone && after.isNone then c :: outside quote after cs else outside quote after cs

namespace Text

variable {quote : Char}

theorem outside_append (region : Option Char) (cs ds : List Char) :
    outside quote region (cs ++ ds)
      = outside quote region cs ++ outside quote (cs.foldl (regionAfter quote) region) ds := by
  induction cs generalizing region with
  | nil => rfl
  | cons c cs ih =>
      simp only [List.cons_append, outside, ih, List.foldl_cons]
      split <;> rfl

/-- Nothing inside of a region counts, up to the mark that closes it. -/
theorem outside_undouble {mark : Char} (isMark : mark = '\'' ∨ mark = quote) (cs : List Char) :
    outside quote (some mark) cs = outside quote none (undouble mark cs).2 := by
  fun_induction undouble mark cs with
  | case1 => rfl
  | case2 => simp [outside, regionAfter]
  | case3 more ih => simp [outside, regionAfter, isMark, ih]
  | case4 => simp [outside, regionAfter]
  | case5 c rest other ih => simp [outside, regionAfter, other, ih]

theorem outside_mark {mark : Char} (isMark : mark = '\'' ∨ mark = quote) (cs : List Char) :
    outside quote none (mark :: cs) = outside quote none (undouble mark cs).2 := by
  rw [← outside_undouble isMark]
  simp [outside, regionAfter, isMark]

/-- Text that opens no region stands outside. -/
theorem outside_plain {cs : List Char} (plain : ∀ c ∈ cs, c ≠ '\'' ∧ c ≠ quote) (ds : List Char) :
    outside quote none (cs ++ ds) = cs ++ outside quote none ds := by
  induction cs with
  | nil => rfl
  | cons c cs ih =>
      rw [List.forall_mem_cons] at plain
      simp [outside, regionAfter, plain.1, ih plain.2]

end Text

/-! ## Parentheses -/

def Token.isParen (t : Token) : Bool :=
  t == .symbol "(" || t == .symbol ")"

/-- The parentheses among the tokens. -/
def Token.countParens (tokens : List Token) : Nat :=
  tokens.countP isParen

theorem Token.countParens_append (tokens others : List Token) :
    countParens (tokens ++ others) = countParens tokens + countParens others :=
  List.countP_append

def Text.isParen (c : Char) : Bool :=
  c == '(' || c == ')'

/-- The parentheses of a text that stand outside of quoted regions. -/
def Text.parensOutside (quote : Char) (cs : List Char) : Nat :=
  (outside quote none cs).countP Text.isParen

section Parens

variable {quote : Char}

theorem parensOutside_append {cs : List Char} (plain : ∀ c ∈ cs, c ≠ '\'' ∧ c ≠ quote)
    (ds : List Char) :
    parensOutside quote (cs ++ ds) = cs.countP Text.isParen + parensOutside quote ds := by
  rw [parensOutside, outside_plain plain, List.countP_append, parensOutside]

theorem Token.isParen_symbol (c : Char) :
    Token.isParen (.symbol (.ofList [c])) = Text.isParen c := by
  have same (d : Char) : (Token.symbol (.ofList [c]) == .symbol (.ofList [d])) = (c == d) := by
    rw [Bool.eq_iff_iff, beq_iff_eq, beq_iff_eq, Token.symbol.injEq, String.ofList_inj]
    simp
  rw [Token.isParen, Text.isParen, ← same '(', ← same ')']

variable (apart : StandsApart quote)

include apart

/-- Plain text without parentheses. -/
private theorem parensOutside_plain {cs : List Char}
    (plain : ∀ c ∈ cs, isPlain c ∧ Text.isParen c = false) (ds : List Char) :
    parensOutside quote (cs ++ ds) = parensOutside quote ds := by
  rw [parensOutside_append fun c mem => ne_mark_of_isPlain apart (plain c mem).1,
    List.countP_eq_zero.mpr fun c mem => by simp [plain c mem], Nat.zero_add]

omit apart in
private theorem plain_of_word {c : Char} (word : inBareWord c) :
    isPlain c ∧ Text.isParen c = false := by
  refine ⟨isPlain_of_inBareWord word, Bool.eq_false_iff.mpr fun paren => ?_⟩
  rw [Text.isParen, Bool.or_eq_true, beq_iff_eq, beq_iff_eq] at paren
  rcases paren with rfl | rfl <;> exact absurd word (by decide)

omit apart in
private theorem plain_of_numeral {c : Char} (inside : Numeral.inNumeral c) :
    isPlain c ∧ Text.isParen c = false := by
  refine ⟨isPlain_of_inNumeral inside, Bool.eq_false_iff.mpr fun paren => ?_⟩
  rw [Text.isParen, Bool.or_eq_true, beq_iff_eq, beq_iff_eq] at paren
  rcases paren with rfl | rfl <;> exact absurd inside (by decide)

/-- A symbol is a parenthesis exactly if its text is one. -/
private theorem parensOutside_symbol {c : Char} (notTick : c ≠ '\'') (notQuote : c ≠ quote)
    (rest : List Char) :
    parensOutside quote (c :: rest)
      = Token.countParens [.symbol (.ofList ((c :: rest).take (Token.symbolLength (c :: rest))))]
        + parensOutside quote ((c :: rest).drop (Token.symbolLength (c :: rest))) := by
  have pair (c d : Char) (rest : List Char) (first : isPlain c ∧ Text.isParen c = false)
      (second : isPlain d ∧ Text.isParen d = false) :
      parensOutside quote (c :: d :: rest) = parensOutside quote rest :=
    have plain : ∀ e ∈ [c, d], isPlain e ∧ Text.isParen e = false :=
      List.forall_mem_cons.mpr ⟨first, List.forall_mem_singleton.mpr second⟩
    parensOutside_plain apart plain rest
  unfold Token.symbolLength
  split
  · rename_i tail parts
    rw [parts]
    exact (pair '<' '=' tail (by decide) (by decide)).trans (Nat.zero_add _).symm
  · rename_i tail parts
    rw [parts]
    exact (pair '<' '>' tail (by decide) (by decide)).trans (Nat.zero_add _).symm
  · rename_i tail parts
    rw [parts]
    exact (pair '>' '=' tail (by decide) (by decide)).trans (Nat.zero_add _).symm
  · have alone : parensOutside quote (c :: rest) = _ :=
      @parensOutside_append quote [c] (by simp [notTick, notQuote]) rest
    rw [alone, List.take_succ_cons, List.take_zero, List.drop_succ_cons, List.drop_zero,
      Token.countParens, List.countP_singleton, List.countP_singleton, Token.isParen_symbol]

/-- A token has a parenthesis exactly if its text is one. -/
private theorem parensOutside_next (c : Char) (rest : List Char) :
    parensOutside quote (c :: rest) = Token.countParens [(Token.next quote c rest).1]
      + parensOutside quote (Token.next quote c rest).2 := by
  by_cases isQuote : c = quote
  · rw [Token.next, if_pos isQuote, parensOutside, outside_mark (.inr isQuote), isQuote]
    exact (Nat.zero_add _).symm
  by_cases isTick : c = '\''
  · rw [Token.next, if_neg isQuote, if_pos isTick, parensOutside, outside_mark (.inl isTick),
      isTick]
    exact (Nat.zero_add _).symm
  rw [Token.next, if_neg isQuote, if_neg isTick]
  by_cases opens : opensBareWord c
  · have word : ∀ d ∈ c :: rest.takeWhile inBareWord, isPlain d ∧ Text.isParen d = false :=
      List.forall_mem_cons.mpr ⟨plain_of_word (inBareWord_of_opensBareWord opens),
        fun d mem => plain_of_word (List.mem_takeWhile_imp mem)⟩
    have parted := parensOutside_plain apart word (rest.dropWhile inBareWord)
    rw [List.cons_append, List.takeWhile_append_dropWhile] at parted
    rw [if_pos opens, parted]
    exact (Nat.zero_add _).symm
  · rw [if_neg opens]
    by_cases positive : 0 < Token.numeralLength (c :: rest)
    · have numeral := Nat.findGreatest_of_ne_zero rfl positive.ne'
      have digits : ∀ d ∈ (c :: rest).take (Token.numeralLength (c :: rest)),
          isPlain d ∧ Text.isParen d = false :=
        fun d mem => plain_of_numeral (Numeral.forall_inNumeral numeral d mem)
      have parted := parensOutside_plain apart digits
        ((c :: rest).drop (Token.numeralLength (c :: rest)))
      rw [List.take_append_drop] at parted
      simp only [if_pos positive]
      rw [parted]
      exact (Nat.zero_add _).symm
    · simp only [if_neg positive]
      exact parensOutside_symbol apart isTick isQuote rest

/-- The parentheses among the tokens are those outside of quoted regions. -/
theorem countParens_scan (cs : List Char) :
    Token.countParens (Token.scan quote cs) = parensOutside quote cs := by
  fun_induction Token.scan quote cs with
  | case1 => rfl
  | case2 rest ih =>
      have space : ∀ c ∈ [' '], isPlain c ∧ Text.isParen c = false :=
        List.forall_mem_singleton.mpr (by decide)
      rw [ih, ← List.singleton_append, parensOutside_plain apart space]
  | case3 c rest notSpace ih =>
      rw [parensOutside_next apart, ← ih]
      exact Token.countParens_append [_] _

theorem regionAfter_of_written {c : Char} (written : c ∈ writtenMarks) (notTick : c ≠ '\'') :
    regionAfter quote none c = none := by
  have notQuote : c ≠ quote := by
    rintro rfl
    exact apart.mark written
  rw [regionAfter, if_neg (not_or.mpr ⟨notTick, notQuote⟩)]

/-- Without two of the parentheses outside of quoted regions there are two less. -/
theorem parensOutside_delete {before inside after : String} (opens : region quote before = none)
    (closes : region quote (before ++ "(" ++ inside) = none) :
    parensOutside quote (before ++ "(" ++ inside ++ ")" ++ after).toList
      = parensOutside quote (before ++ inside ++ after).toList + 2 := by
  have opening := regionAfter_of_written apart (c := '(') (by decide) (by decide)
  have closing := regionAfter_of_written apart (c := ')') (by decide) (by decide)
  have openChars : "(".toList = ['('] := rfl
  have closeChars : ")".toList = [')'] := rfl
  rw [region] at opens
  rw [region, String.toList_append, String.toList_append, List.foldl_append, List.foldl_append,
    opens, openChars, List.foldl_cons, opening, List.foldl_nil] at closes
  have openOnly : (outside quote none ['(']).countP isParen = 1 := by
    simp [outside, opening, isParen]
  have closeOnly : (outside quote none [')']).countP isParen = 1 := by
    simp [outside, closing, isParen]
  simp only [parensOutside, String.toList_append, outside_append, List.countP_append,
    List.foldl_append, opens, openChars, closeChars, List.foldl_cons, List.foldl_nil, opening,
    closing, closes, openOnly, closeOnly]
  omega

end Parens

end DdlTree
