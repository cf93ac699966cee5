import DdlTree.Expr
import DdlTree.Proofs.Numeral
import DdlTree.Render.Style
import Mathlib.Data.List.Forall2
import Mathlib.Data.Nat.Find

/-! # Tokens

SQL text is read as a sequence of tokens: words, delimited identifiers, string literals, numbers and
symbols, each as long as it can be. Spaces only separate tokens. A piece of text can be read on its
own if what comes after it cannot prolong its last token.
-/

namespace DdlTree

open Text

/-- A token of SQL text. -/
inductive Token where
  /-- A keyword, a regular identifier, or any other bare word. -/
  | word (text : String)
  /-- A delimited identifier, without its marks. -/
  | delimited (name : String)
  /-- A string literal, without its marks. -/
  | literal (value : String)
  | number (text : String)
  | symbol (text : String)
  deriving Repr, DecidableEq

/-- The text up to the closing mark, every mark in it written twice, and what comes after it. -/
def Text.undouble (mark : Char) : List Char → List Char × List Char
  | [] => ([], [])
  | c :: rest =>
      if c = mark then
        match rest with
        | [] => ([], [])
        | d :: more =>
            if d = mark then (mark :: (undouble mark more).1, (undouble mark more).2)
            else ([], d :: more)
      else (c :: (undouble mark rest).1, (undouble mark rest).2)

theorem Text.length_undouble_le (mark : Char) (cs : List Char) :
    (undouble mark cs).2.length ≤ cs.length := by
  fun_induction undouble mark cs <;> simp_all <;> omega

/-- What closes a delimited text is a mark that is not followed by another one. -/
theorem Text.undouble_double {mark : Char} {rest : List Char} (closed : rest.head? ≠ some mark)
    (text : List Char) : undouble mark (double mark text ++ mark :: rest) = (text, rest) := by
  induction text with
  | nil =>
      cases rest with
      | nil => simp [double, undouble]
      | cons c cs =>
          have other : c ≠ mark := by simpa using closed
          simp [double, undouble, other]
  | cons c cs ih =>
      by_cases same : c = mark
      · subst same
        simp [double, undouble, ih]
      · rw [double, if_neg same, List.cons_append, undouble.eq_def]
        simp only [if_neg same, ih]

def BinaryOp.token : BinaryOp → Token
  | .or => .word "OR"
  | .and => .word "AND"
  | op => .symbol op.symbol

namespace Token

def parens (tokens : List Token) : List Token :=
  .symbol "(" :: (tokens ++ [.symbol ")"])

def commas (groups : List (List Token)) : List Token :=
  [.symbol ","].intercalate groups

/-- The length of the longest numeric literal that a text starts with, or zero. -/
def numeralLength (cs : List Char) : Nat :=
  Nat.findGreatest (fun n => Numeral.isUnsigned (Numeral.dropMinus (cs.take n))) cs.length

def symbolLength : List Char → Nat
  | '<' :: '=' :: _ => 2
  | '<' :: '>' :: _ => 2
  | '>' :: '=' :: _ => 2
  | _ => 1

/-- The token that starts with a character which is no space, and what comes after it. -/
def next (quote c : Char) (rest : List Char) : Token × List Char :=
  if c = quote then
    (.delimited (.ofList (undouble quote rest).1), (undouble quote rest).2)
  else if c = '\'' then
    (.literal (.ofList (undouble '\'' rest).1), (undouble '\'' rest).2)
  else if opensBareWord c then
    (.word (.ofList (c :: rest.takeWhile inBareWord)), rest.dropWhile inBareWord)
  else
    let length := numeralLength (c :: rest)
    if 0 < length then
      (.number (.ofList ((c :: rest).take length)), (c :: rest).drop length)
    else
      let length := symbolLength (c :: rest)
      (.symbol (.ofList ((c :: rest).take length)), (c :: rest).drop length)

theorem symbolLength_pos (cs : List Char) : 0 < symbolLength cs := by
  unfold symbolLength
  split <;> decide

theorem length_next_le (quote c : Char) (rest : List Char) :
    (next quote c rest).2.length ≤ rest.length := by
  unfold next
  split
  · exact length_undouble_le quote rest
  · split
    · exact length_undouble_le '\'' rest
    · split
      · exact List.length_dropWhile_le _ rest
      · simp only
        split
        · simp only [List.length_drop, List.length_cons]
          omega
        · have := symbolLength_pos (c :: rest)
          simp only [List.length_drop, List.length_cons]
          omega

/-- The tokens of a text in which delimited identifiers stand between the marks `quote`. -/
def scan (quote : Char) : List Char → List Token
  | [] => []
  | c :: rest =>
      if c = ' ' then scan quote rest
      else (next quote c rest).1 :: scan quote (next quote c rest).2
termination_by cs => cs.length
decreasing_by
  · simp
  · have := length_next_le quote c rest
    simp only [List.length_cons]
    omega

theorem scan_space (quote : Char) (rest : List Char) :
    scan quote (' ' :: rest) = scan quote rest := by
  rw [scan, if_pos rfl]

theorem scan_cons {quote c : Char} {rest : List Char} (notSpace : c ≠ ' ') :
    scan quote (c :: rest) = (next quote c rest).1 :: scan quote (next quote c rest).2 := by
  rw [scan, if_neg notSpace]

end Token

/-- The characters that are written outside delimited text, apart from those of words. -/
def writtenMarks : List Char :=
  [' ', '.', ',', '(', ')', '\'', '=', '<', '>', '+', '-', '*', '/', ';']

/-- A mark for delimited identifiers that is not written anywhere else. -/
structure StandsApart (quote : Char) : Prop where
  word : inBareWord quote = false
  mark : quote ∉ writtenMarks

/-- The characters that end every word and every number. -/
def endMarks : List Char :=
  [' ', '(', ')', ',', ';']

/-- Nothing comes next, or a character that ends every word and every number. -/
def Loose (rest : List Char) : Prop :=
  ∀ c ∈ rest.head?, c ∈ endMarks

/-- Nothing comes next, or a character that ends every identifier. -/
def LooseOrDot (rest : List Char) : Prop :=
  ∀ c ∈ rest.head?, c ∈ '.' :: endMarks

theorem Loose.cons {c : Char} {rest : List Char} (mark : c ∈ endMarks) :
    Loose (c :: rest) := by
  intro d isHead
  obtain rfl : c = d := by simpa using isHead
  exact mark

theorem Loose.orDot {rest : List Char} (loose : Loose rest) : LooseOrDot rest := by
  intro c isHead
  exact List.mem_cons_of_mem _ (loose c isHead)

/-- A text is read as the given tokens, whatever comes after it as long as `follow` holds of it. -/
def Scans (quote : Char) (follow : List Char → Prop) (text : String) (tokens : List Token) : Prop :=
  ∀ rest, follow rest → Token.scan quote (text.toList ++ rest) = tokens ++ Token.scan quote rest

namespace Scans

variable {quote : Char} {follow after : List Char → Prop} {text other : String}
  {tokens others : List Token}

theorem mono (scans : Scans quote follow text tokens) (weaker : ∀ rest, after rest → follow rest) :
    Scans quote after text tokens :=
  fun rest holds => scans rest (weaker rest holds)

theorem append (first : Scans quote follow text tokens) (second : Scans quote after other others)
    (link : ∀ rest, after rest → follow (other.toList ++ rest)) :
    Scans quote after (text ++ other) (tokens ++ others) := by
  intro rest holds
  rw [String.toList_append, List.append_assoc, first _ (link rest holds), second rest holds,
    List.append_assoc]

theorem scan_eq (scans : Scans quote Loose text tokens) :
    Token.scan quote text.toList = tokens := by
  have whole := scans [] (by simp [Loose])
  rwa [List.append_nil, Token.scan, List.append_nil] at whole

end Scans

theorem scans_space (quote : Char) : Scans quote (fun _ => True) " " [] :=
  fun rest _ => Token.scan_space quote rest

theorem scans_nil (quote : Char) (follow : List Char → Prop) : Scans quote follow "" [] :=
  fun _ _ => rfl

/-- A numeric literal is the longest one at the start of what it starts. -/
private theorem numeralLength_append {cs rest : List Char}
    (numeral : Numeral.isUnsigned (Numeral.dropMinus cs)) (loose : Loose rest) :
    Token.numeralLength (cs ++ rest) = cs.length := by
  rw [Token.numeralLength, Nat.findGreatest_eq_iff]
  refine ⟨by simp, fun _ => by rwa [List.take_left], fun n longer inside tooLong => ?_⟩
  cases rest with
  | nil => simp at inside; omega
  | cons c more =>
      have mem : c ∈ (cs ++ c :: more).take n := by
        rw [List.take_append, List.take_of_length_le (by omega)]
        obtain ⟨k, same⟩ : ∃ k, n - cs.length = k + 1 := ⟨n - cs.length - 1, by omega⟩
        rw [same, List.take_succ_cons]
        simp
      have inside := Numeral.forall_inNumeral tooLong c mem
      have mark := loose c rfl
      simp only [endMarks, List.mem_cons, List.not_mem_nil, or_false] at mark
      rcases mark with rfl | rfl | rfl | rfl | rfl <;> simp [Numeral.inNumeral] at inside

private theorem numeralLength_eq_zero {c : Char} {rest : List Char} (notDigit : c.isDigit = false)
    (notPoint : c = '.' ∨ c = '-' → ∀ d ∈ rest.head?, d.isDigit = false ∧ d ≠ '.') :
    Token.numeralLength (c :: rest) = 0 := by
  rw [Token.numeralLength, Nat.findGreatest_eq_zero_iff]
  intro n positive _ numeral
  obtain ⟨k, rfl⟩ : ∃ k, n = k + 1 := ⟨n - 1, by omega⟩
  rw [List.take_succ_cons] at numeral
  have headOf {d : Char} {ds : List Char} (taken : rest.take k = d :: ds) :
      rest.head? = some d := by
    cases rest with
    | nil => simp at taken
    | cons e es =>
        cases k with
        | zero => simp at taken
        | succ k => simpa using (List.cons.inj taken).1
  by_cases minus : c = '-'
  · subst minus
    rw [Numeral.dropMinus] at numeral
    cases taken : rest.take k with
    | nil => exact absurd (taken ▸ numeral) Numeral.not_isUnsigned_nil
    | cons d ds =>
        have follows := notPoint (.inr rfl) d (headOf taken)
        rw [taken] at numeral
        rcases Numeral.head_of_isUnsigned numeral with digit | ⟨dot, -⟩
        · simp [follows.1] at digit
        · exact follows.2 dot
  · rw [Numeral.dropMinus_cons minus] at numeral
    rcases Numeral.head_of_isUnsigned numeral with digit | ⟨dot, d, isHead, digit⟩
    · simp [notDigit] at digit
    · cases taken : rest.take k with
      | nil => simp [taken] at isHead
      | cons e es =>
          obtain rfl : e = d := by simpa [taken] using isHead
          simp [(notPoint (.inl dot) e (headOf taken)).1] at digit

theorem opensBareWord_of_isDigit {c : Char} (digit : c.isDigit) :
    opensBareWord c = false := by
  have below : c.val ≤ '9'.val := of_decide_eq_true (Bool.and_eq_true_iff.mp digit).2
  have notAbove {least : Char} (above : '9'.val < least.val) : ¬least.val ≤ c.val := fun reaches =>
    UInt32.not_lt.mpr (UInt32.le_trans reaches below) above
  have notUpper : c.isUpper = false := decide_eq_false fun upper => notAbove (by decide) upper.1
  have notLower : c.isLower = false := Bool.and_eq_false_imp.mpr fun lower =>
    absurd (of_decide_eq_true lower) (notAbove (by decide))
  have notLetter : c.isAlpha = false := Bool.or_eq_false_iff.mpr ⟨notUpper, notLower⟩
  have notUnderscore : c ≠ '_' := by
    rintro rfl
    simp at digit
  simp [opensBareWord, notLetter, notUnderscore]

section Pieces

variable {quote : Char} (apart : StandsApart quote)

include apart

private theorem ne_quote_of_inBareWord {c : Char} (word : inBareWord c) : c ≠ quote := by
  rintro rfl
  simp [apart.word] at word

private theorem ne_quote_of_written {c : Char} (written : c ∈ writtenMarks) : c ≠ quote := by
  rintro rfl
  exact apart.mark written

theorem scans_word {word : String} (bare : isBareWord word) :
    Scans quote LooseOrDot word [.word word] := by
  intro rest loose
  rw [isBareWord] at bare
  split at bare
  · simp at bare
  · rename_i first more chars
    rw [Bool.and_eq_true, List.all_eq_true] at bare
    obtain ⟨opens, inside⟩ := bare
    have ended : rest.takeWhile inBareWord = [] ∧ rest.dropWhile inBareWord = rest := by
      cases rest with
      | nil => exact ⟨rfl, rfl⟩
      | cons c cs =>
          have outside : inBareWord c = false := by
            have mark := loose c rfl
            simp only [endMarks, List.mem_cons, List.not_mem_nil, or_false] at mark
            rcases mark with rfl | rfl | rfl | rfl | rfl | rfl <;> rfl
          simp [outside]
    have next : Token.next quote first (more ++ rest) = (.word word, rest) := by
      rw [Token.next, if_neg (ne_quote_of_inBareWord apart (inBareWord_of_opensBareWord opens)),
        if_neg (by rintro rfl; simp [opensBareWord] at opens), if_pos opens,
        List.takeWhile_append_of_pos inside, List.dropWhile_append_of_pos inside, ended.1, ended.2,
        List.append_nil, ← chars, String.ofList_toList]
    rw [chars, List.cons_append, Token.scan_cons (by rintro rfl; simp [opensBareWord] at opens),
      next]
    rfl

theorem scans_delimited (name : String) :
    Scans quote LooseOrDot (delimited quote name) [.delimited name] := by
  intro rest loose
  have closed : rest.head? ≠ some quote := by
    intro reopened
    have sub : '.' :: endMarks ⊆ writtenMarks := by decide
    exact apart.mark (sub (loose quote reopened))
  have notSpace : quote ≠ ' ' := (ne_quote_of_written apart (by decide)).symm
  have next : Token.next quote quote (double quote name.toList ++ quote :: rest)
      = (.delimited name, rest) := by
    rw [Token.next, if_pos rfl, undouble_double closed, String.ofList_toList]
  rw [delimited, String.toList_ofList, List.cons_append, List.append_assoc, List.singleton_append,
    Token.scan_cons notSpace, next]
  rfl

theorem scans_literal (value : String) :
    Scans quote LooseOrDot (stringLiteral value) [.literal value] := by
  intro rest loose
  have closed : rest.head? ≠ some '\'' := by
    intro reopened
    exact absurd (loose _ reopened) (by decide)
  have next : Token.next quote '\'' (double '\'' value.toList ++ '\'' :: rest)
      = (.literal value, rest) := by
    rw [Token.next, if_neg (ne_quote_of_written apart (by decide)), if_pos rfl,
      undouble_double closed, String.ofList_toList]
  rw [stringLiteral, delimited, String.toList_ofList, List.cons_append, List.append_assoc,
    List.singleton_append, Token.scan_cons (by decide), next]
  rfl

theorem scans_number {text : String} (numeral : Numeral.isNumeral text) :
    Scans quote Loose text [.number text] := by
  intro rest loose
  rw [Numeral.isNumeral] at numeral
  cases chars : text.toList with
  | nil =>
      rw [chars] at numeral
      exact absurd numeral Numeral.not_isUnsigned_nil
  | cons c cs =>
      rw [chars] at numeral
      have whole := numeralLength_append numeral loose
      have head := Numeral.head_of_numeral numeral
      have notQuote : c ≠ quote := by
        rcases head with digit | rfl | rfl
        · exact ne_quote_of_inBareWord apart (by simp [inBareWord, Char.isAlphanum, digit])
        · exact ne_quote_of_written apart (by decide)
        · exact ne_quote_of_written apart (by decide)
      have notWord : opensBareWord c = false := by
        rcases head with digit | rfl | rfl
        · exact opensBareWord_of_isDigit digit
        · rfl
        · rfl
      have next : Token.next quote c (cs ++ rest) = (.number text, rest) := by
        rw [List.cons_append] at whole
        rw [Token.next, if_neg notQuote, if_neg (by rintro rfl; simp at head),
          if_neg (by simp [notWord])]
        simp only [whole]
        rw [if_pos (by simp), ← List.cons_append, List.take_left, List.drop_left, ← chars,
          String.ofList_toList]
      rw [List.cons_append, Token.scan_cons (by rintro rfl; simp at head), next]
      rfl

/-- A symbol stands alone unless what comes next makes it longer or starts a number. -/
private theorem scan_symbol {c : Char} {rest : List Char}
    (symbol : c ∈ ['(', ')', ',', '.', '=', '<', '>', '+', '-', '*', '/', ';'])
    (notPoint : c = '.' ∨ c = '-' → ∀ d ∈ rest.head?, d.isDigit = false ∧ d ≠ '.') :
    Token.scan quote (c :: rest)
      = .symbol (.ofList ((c :: rest).take (Token.symbolLength (c :: rest))))
        :: Token.scan quote ((c :: rest).drop (Token.symbolLength (c :: rest))) := by
  have written : c ∈ writtenMarks := by
    have sub : ['(', ')', ',', '.', '=', '<', '>', '+', '-', '*', '/', ';'] ⊆ writtenMarks := by
      decide
    exact sub symbol
  have plain : c ≠ ' ' ∧ c ≠ '\'' ∧ opensBareWord c = false ∧ c.isDigit = false := by
    simp only [List.mem_cons, List.not_mem_nil, or_false] at symbol
    rcases symbol with rfl | rfl | rfl | rfl | rfl | rfl | rfl | rfl | rfl | rfl | rfl | rfl <;>
      decide
  obtain ⟨notSpace, notTick, notWord, notDigit⟩ := plain
  rw [Token.scan_cons notSpace, Token.next, if_neg (ne_quote_of_written apart written),
    if_neg notTick, if_neg (by simp [notWord])]
  simp only [numeralLength_eq_zero notDigit notPoint, Nat.lt_irrefl, ↓reduceIte]

theorem scans_mark {c : Char} (paren : c ∈ ['(', ')', ',', ';']) :
    Scans quote (fun _ => True) (.singleton c) [.symbol (.singleton c)] := by
  intro rest _
  have sub : ['(', ')', ',', ';']
      ⊆ ['(', ')', ',', '.', '=', '<', '>', '+', '-', '*', '/', ';'] := by decide
  have alone : Token.symbolLength (c :: rest) = 1 := by
    simp only [List.mem_cons, List.not_mem_nil, or_false] at paren
    rcases paren with rfl | rfl | rfl | rfl <;> rfl
  have notPoint : ¬(c = '.' ∨ c = '-') := by
    simp only [List.mem_cons, List.not_mem_nil, or_false] at paren
    rcases paren with rfl | rfl | rfl | rfl <;> decide
  have scanned : Token.scan quote (c :: rest) = _ :=
    scan_symbol apart (sub paren) fun point => absurd point notPoint
  rw [alone] at scanned
  simpa using scanned

/-- A dot stands alone before anything but a number or another dot. -/
theorem scans_dot :
    Scans quote (fun rest => ∀ d ∈ rest.head?, d.isDigit = false ∧ d ≠ '.') "." [.symbol "."] := by
  intro rest follows
  have alone : Token.symbolLength ('.' :: rest) = 1 := rfl
  have scanned : Token.scan quote ('.' :: rest) = _ :=
    scan_symbol apart (by decide) fun _ => follows
  rw [alone] at scanned
  exact scanned

private theorem scans_symbol {text : String} {c : Char} {cs : List Char}
    (chars : text.toList = c :: cs)
    (symbol : c ∈ ['(', ')', ',', '.', '=', '<', '>', '+', '-', '*', '/', ';'])
    (notPoint : c = '.' ∨ c = '-' → cs = [])
    (whole : ∀ rest, Loose rest → Token.symbolLength (c :: (cs ++ rest)) = cs.length + 1) :
    Scans quote Loose text [.symbol text] := by
  intro rest loose
  have follows : c = '.' ∨ c = '-' → ∀ d ∈ (cs ++ rest).head?, d.isDigit = false ∧ d ≠ '.' := by
    intro point d isHead
    rw [notPoint point, List.nil_append] at isHead
    have mark := loose d isHead
    simp only [endMarks, List.mem_cons, List.not_mem_nil, or_false] at mark
    rcases mark with rfl | rfl | rfl | rfl | rfl <;> decide
  rw [chars, List.cons_append, scan_symbol apart symbol follows, whole rest loose,
    ← List.cons_append, ← List.length_cons (a := c), List.take_left, List.drop_left, ← chars,
    String.ofList_toList]
  rfl

theorem scans_op (op : BinaryOp) : Scans quote Loose op.symbol [op.token] := by
  have longer (c : Char) (rest : List Char) (loose : Loose rest) (alone : c = '<' ∨ c = '>') :
      Token.symbolLength (c :: rest) = 1 := by
    cases rest with
    | nil => rcases alone with rfl | rfl <;> rfl
    | cons d ds =>
        have mark := loose d rfl
        simp only [endMarks, List.mem_cons, List.not_mem_nil, or_false] at mark
        rcases alone with rfl | rfl <;> rcases mark with rfl | rfl | rfl | rfl | rfl <;> rfl
  cases op with
  | or | and => exact (scans_word apart (by decide)).mono fun _ => Loose.orDot
  | lt | gt =>
      exact scans_symbol apart rfl (by decide) (by decide) fun rest loose =>
        longer _ rest loose (by decide)
  | _ => exact scans_symbol apart rfl (by decide) (by decide) fun _ _ => rfl

theorem scans_words {words : List String} (bare : ∀ word ∈ words, isBareWord word) :
    Scans quote LooseOrDot (" ".intercalate words) (words.map .word) := by
  induction words with
  | nil => exact scans_nil quote _
  | cons word others ih =>
      rw [List.forall_mem_cons] at bare
      cases others with
      | nil =>
          rw [String.intercalate_singleton]
          exact scans_word apart bare.1
      | cons next rest =>
          rw [String.intercalate_cons_cons]
          have spaced := (scans_word apart bare.1).append (scans_space quote)
            fun _ _ => (Loose.cons (by decide)).orDot
          exact spaced.append (ih bare.2) fun _ _ => trivial

/-- Keywords in front of something. -/
theorem scans_before {text : String} (words : List String)
    (bare : words.all isBareWord) (same : text = " ".intercalate words ++ " ") :
    Scans quote (fun _ => True) text (words.map .word) := by
  have spaced := (scans_words apart (List.all_eq_true.mp bare)).append (scans_space quote)
    fun _ _ => (Loose.cons (by decide)).orDot
  rw [List.append_nil] at spaced
  exact same ▸ spaced

/-- Keywords behind something. -/
theorem scans_behind {text : String} (words : List String)
    (bare : words.all isBareWord) (same : text = " " ++ " ".intercalate words) :
    Scans quote LooseOrDot text (words.map .word) := by
  have spaced := (scans_space quote).append (scans_words apart (List.all_eq_true.mp bare))
    fun _ _ => trivial
  exact same ▸ spaced

/-- Keywords between two things. -/
theorem scans_between {text : String} (words : List String)
    (bare : words.all isBareWord) (same : text = " " ++ " ".intercalate words ++ " ") :
    Scans quote (fun _ => True) text (words.map .word) := by
  have before : Scans quote _ (" ".intercalate words ++ " ") _ := scans_before apart words bare rfl
  have spaced := (scans_space quote).append before fun _ _ => trivial
  rw [← String.append_assoc] at spaced
  exact same ▸ spaced

theorem scans_parens {text : String} {tokens : List Token}
    (scans : Scans quote Loose text tokens) :
    Scans quote (fun _ => True) ("(" ++ text ++ ")") (Token.parens tokens) := by
  have opening : Scans quote _ "(" _ := scans_mark apart (c := '(') (by decide)
  have closing : Scans quote _ ")" _ := scans_mark apart (c := ')') (by decide)
  have opened := opening.append scans fun _ _ => trivial
  exact opened.append closing fun _ _ => Loose.cons (by decide)

/-- Texts in a row are read as their tokens in a row. -/
theorem scans_commaSeparated {α : Type} {tokens : α → List Token} {items : List α}
    {texts : List String}
    (scans : List.Forall₂ (fun item text => Scans quote Loose text (tokens item)) items texts) :
    Scans quote Loose (commaSeparated texts) (Token.commas (items.map tokens)) := by
  have comma : Scans quote _ "," _ := scans_mark apart (c := ',') (by decide)
  have between : Scans quote (fun _ => True) ", " [.symbol ","] :=
    comma.append (scans_space quote) fun _ _ => trivial
  induction scans with
  | nil => exact scans_nil quote _
  | @cons item text items texts first rest ih =>
      cases rest with
      | nil =>
          rw [commaSeparated, String.intercalate_singleton, List.map_singleton, Token.commas,
            List.intercalate_singleton]
          exact first
      | cons second others =>
          rw [commaSeparated, String.intercalate_cons_cons, List.map_cons, List.map_cons,
            Token.commas, List.intercalate_cons_cons]
          have led := first.append between fun _ _ => Loose.cons (by decide)
          exact led.append ih fun _ _ => trivial

end Pieces

end DdlTree
