import DdlTree.DataType
import DdlTree.Proofs.Outcome
import DdlTree.Proofs.Token

/-! # Quoted regions

A scanner that knows of nothing but quotes. Outside of quoted regions a tick opens a string literal
and the mark of the style opens a delimited identifier; inside a region a mark that is written twice
stands for one, and a single mark closes the region. A text that is put together from plain text and
regions, no two of them next to each other, is scanned as the regions that were put in.
-/

namespace DdlTree

open Text

/-- The text of a region up to the mark that closes it, and what comes after that mark; nothing if
    the region is never closed. -/
def Text.region? (mark : Char) : List Char → Option (List Char × List Char)
  | [] => none
  | [c] => if c = mark then some ([], []) else none
  | c :: d :: rest =>
      if c = mark then
        if d = mark then (region? mark rest).map fun region => (mark :: region.1, region.2)
        else some ([], d :: rest)
      else (region? mark (d :: rest)).map fun region => (c :: region.1, region.2)

theorem Text.length_of_region? {mark : Char} {cs text after : List Char}
    (found : region? mark cs = some (text, after)) : after.length < cs.length := by
  fun_induction region? mark cs generalizing text after with
  | case1 => simp at found
  | case2 => simp_all
  | case3 => simp at found
  | case4 rest ih =>
      obtain ⟨region, read, same⟩ := Option.map_eq_some_iff.mp found
      obtain ⟨-, rfl⟩ := Prod.mk.inj same
      have shorter := ih read
      simp only [List.length_cons]
      omega
  | case5 => simp_all
  | case6 c d rest other ih =>
      obtain ⟨region, read, same⟩ := Option.map_eq_some_iff.mp found
      obtain ⟨-, rfl⟩ := Prod.mk.inj same
      have shorter := ih read
      simp only [List.length_cons] at shorter ⊢
      omega

/-- What is written between two marks comes back as it was, if no further mark comes next. -/
theorem Text.region?_double {mark : Char} {rest : List Char} (closed : rest.head? ≠ some mark)
    (text : List Char) : region? mark (double mark text ++ mark :: rest) = some (text, rest) := by
  induction text with
  | nil =>
      cases rest with
      | nil => simp [double, region?]
      | cons c cs =>
          have other : c ≠ mark := by simpa using closed
          simp [double, region?, other]
  | cons c cs ih =>
      by_cases same : c = mark
      · subst same
        simp [double, region?, ih]
      · -- the scanner looks one character ahead, and there is one up to the closing mark
        obtain ⟨d, ds, split⟩ : ∃ d ds, double mark cs ++ mark :: rest = d :: ds :=
          List.exists_cons_of_ne_nil (by simp)
        rw [double, if_neg same, List.cons_append, split, region?, if_neg same, ← split, ih]
        rfl

/-- What a text shows to the scanner. -/
structure Reading where
  /-- The text with all its literals empty. -/
  outside : String
  /-- The string literals, without their marks. -/
  literals : List String
  /-- The delimited identifiers, without their marks. -/
  names : List String
  deriving Repr, DecidableEq

namespace Reading

def empty : Reading := ⟨"", [], []⟩

/-- What two texts show that stand one after the other. -/
def append (first second : Reading) : Reading :=
  ⟨first.outside ++ second.outside, first.literals ++ second.literals, first.names ++ second.names⟩

def plain (c : Char) : Reading := ⟨.singleton c, [], []⟩

def literal (value : String) : Reading := ⟨stringLiteral "", [value], []⟩

def name (quote : Char) (name : String) : Reading := ⟨delimited quote name, [], [name]⟩

/-- Scan a text in which delimited identifiers stand between the marks `quote`; nothing if the text
    ends inside a region. -/
def ofText? (quote : Char) : List Char → Option Reading
  | [] => some empty
  | c :: rest =>
      if c = '\'' then
        match _found : region? c rest with
        | some (value, after) => (ofText? quote after).map (literal (.ofList value)).append
        | none => none
      else if c = quote then
        match _found : region? c rest with
        | some (text, after) => (ofText? quote after).map (name quote (.ofList text)).append
        | none => none
      else (ofText? quote rest).map (plain c).append
termination_by cs => cs.length
decreasing_by
  · have := length_of_region? _found
    simp only [List.length_cons]
    omega
  · have := length_of_region? _found
    simp only [List.length_cons]
    omega
  · simp

@[simp] theorem empty_append (reading : Reading) : empty.append reading = reading := by
  simp [append, empty]

@[simp] theorem append_empty (reading : Reading) : reading.append empty = reading := by
  simp [append, empty]

theorem append_assoc (first second third : Reading) :
    (first.append second).append third = first.append (second.append third) := by
  simp [append, String.append_assoc]

end Reading

/-! ## Plain text -/

/-- A character that a renderer writes outside of quoted regions. -/
def isPlain (c : Char) : Bool :=
  inBareWord c || (c != '\'' && writtenMarks.contains c)

/-- A text that holds no mark of a quoted region. -/
def Plain (text : String) : Prop :=
  text.toList.all isPlain

instance (text : String) : Decidable (Plain text) :=
  inferInstanceAs (Decidable (_ = true))

theorem Plain.append {text other : String} (first : Plain text) (second : Plain other) :
    Plain (text ++ other) := by
  rw [Plain, String.toList_append, List.all_append, Bool.and_eq_true]
  exact ⟨first, second⟩

theorem isPlain_of_inBareWord {c : Char} (word : inBareWord c) : isPlain c := by
  rw [isPlain, word, Bool.true_or]

theorem isPlain_of_inNumeral {c : Char} (inside : Numeral.inNumeral c) : isPlain c := by
  simp only [Numeral.inNumeral, Bool.or_eq_true, List.contains_iff_mem, List.mem_cons,
    List.not_mem_nil, or_false] at inside
  rcases inside with digit | rfl | rfl | rfl | rfl | rfl
  · simp [isPlain, inBareWord, Char.isAlphanum, digit]
  all_goals decide

theorem plain_of_isBareWord {text : String} (bare : isBareWord text) : Plain text := by
  rw [isBareWord] at bare
  split at bare
  · simp at bare
  · rename_i first rest chars
    rw [Bool.and_eq_true, List.all_eq_true] at bare
    rw [Plain, chars, List.all_cons, Bool.and_eq_true, List.all_eq_true]
    exact ⟨isPlain_of_inBareWord (inBareWord_of_opensBareWord bare.1),
      fun c mem => isPlain_of_inBareWord (bare.2 c mem)⟩

theorem plain_of_isNumeral {text : String} (numeral : Numeral.isNumeral text) : Plain text := by
  rw [Plain, List.all_eq_true]
  exact fun c mem => isPlain_of_inNumeral (Numeral.forall_inNumeral numeral c mem)

theorem plain_toString (n : Nat) : Plain (toString n) :=
  plain_of_isNumeral (Numeral.isNumeral_toString n)

theorem plain_dataType (type : DataType) : Plain type.text := by
  cases type with
  | decimal precision scale =>
      have opening : Plain "DECIMAL(" := by decide
      have comma : Plain ", " := by decide
      have closing : Plain ")" := by decide
      exact (((opening.append (plain_toString precision)).append comma).append
        (plain_toString scale)).append closing
  | varchar length =>
      have opening : Plain "VARCHAR(" := by decide
      have closing : Plain ")" := by decide
      exact (opening.append (plain_toString length)).append closing
  | char length =>
      have opening : Plain "CHAR(" := by decide
      have closing : Plain ")" := by decide
      exact (opening.append (plain_toString length)).append closing
  | _ => decide

/-! ## Pieces of text -/

/-- Nothing comes next, or a character that opens no region. -/
def Bare (quote : Char) (rest : List Char) : Prop :=
  ∀ c ∈ rest.head?, c ≠ '\'' ∧ c ≠ quote

/-- A text shows the same to the scanner whatever comes after it, as long as `follow` holds of
    that. -/
def Shows (quote : Char) (follow : List Char → Prop) (text : String) (reading : Reading) : Prop :=
  ∀ rest, follow rest →
    Reading.ofText? quote (text.toList ++ rest) = (Reading.ofText? quote rest).map reading.append

namespace Shows

variable {quote : Char} {follow after : List Char → Prop} {text other outside others : String}
  {literals moreLiterals names moreNames : List String}

theorem mono {reading : Reading} (shows : Shows quote follow text reading)
    (weaker : ∀ rest, after rest → follow rest) : Shows quote after text reading :=
  fun rest holds => shows rest (weaker rest holds)

theorem append (first : Shows quote follow text ⟨outside, literals, names⟩)
    (second : Shows quote after other ⟨others, moreLiterals, moreNames⟩)
    (link : ∀ rest, after rest → follow (other.toList ++ rest)) :
    Shows quote after (text ++ other)
      ⟨outside ++ others, literals ++ moreLiterals, names ++ moreNames⟩ := by
  intro rest holds
  rw [String.toList_append, List.append_assoc, first _ (link rest holds), second rest holds,
    Option.map_map]
  congr 1
  funext reading
  exact (Reading.append_assoc _ _ _).symm

theorem ofText?_eq {reading : Reading} (shows : Shows quote (Bare quote) text reading) :
    Reading.ofText? quote text.toList = some reading := by
  have whole := shows [] (by simp [Bare])
  rw [List.append_nil, Reading.ofText?, Option.map_some, Reading.append_empty] at whole
  exact whole

end Shows

theorem shows_literal (quote : Char) (value : String) :
    Shows quote (Bare quote) (stringLiteral value) ⟨stringLiteral "", [value], []⟩ := by
  intro rest bare
  have closed : rest.head? ≠ some '\'' := fun reopened => (bare _ reopened).1 rfl
  rw [stringLiteral, delimited, String.toList_ofList, List.cons_append, List.append_assoc,
    List.singleton_append, Reading.ofText?, if_pos rfl]
  split
  · rename_i text after found
    rw [region?_double closed] at found
    obtain ⟨rfl, rfl⟩ := Prod.mk.inj (Option.some.inj found)
    rw [String.ofList_toList, Reading.literal]
  · rename_i found
    simp [region?_double closed] at found

section Pieces

variable {quote : Char} (apart : StandsApart quote)

include apart

theorem ne_mark_of_isPlain {c : Char} (isPlain : isPlain c) : c ≠ '\'' ∧ c ≠ quote := by
  rw [DdlTree.isPlain, Bool.or_eq_true, Bool.and_eq_true, bne_iff_ne, List.contains_iff_mem]
    at isPlain
  rcases isPlain with word | ⟨notTick, written⟩
  · refine ⟨?_, ?_⟩
    · rintro rfl
      exact absurd word (by decide)
    · rintro rfl
      simp [apart.word] at word
  · refine ⟨notTick, ?_⟩
    rintro rfl
    exact apart.mark written

theorem shows_plain {text : String} (plain : Plain text) :
    Shows quote (fun _ => True) text ⟨text, [], []⟩ := by
  have chars (cs rest : List Char) (plain : cs.all isPlain) :
      Reading.ofText? quote (cs ++ rest)
        = (Reading.ofText? quote rest).map (Reading.append ⟨.ofList cs, [], []⟩) := by
    induction cs with
    | nil =>
        have nothing : (Reading.append ⟨.ofList [], [], []⟩) = id :=
          funext Reading.empty_append
        rw [nothing, Option.map_id]
        rfl
    | cons c cs ih =>
        rw [List.all_cons, Bool.and_eq_true] at plain
        obtain ⟨notTick, notQuote⟩ := ne_mark_of_isPlain apart plain.1
        rw [List.cons_append, Reading.ofText?, if_neg notTick, if_neg notQuote, ih plain.2,
          Option.map_map]
        congr 1
        funext reading
        have text : String.singleton c ++ String.ofList cs = String.ofList (c :: cs) := by
          simp
        exact (Reading.append_assoc _ _ _).symm.trans
          (congrArg (fun text => Reading.append ⟨text, [], []⟩ reading) text)
  intro rest _
  rw [chars text.toList rest plain, String.ofList_toList]

theorem shows_delimited (name : String) :
    Shows quote (Bare quote) (delimited quote name) ⟨delimited quote name, [], [name]⟩ := by
  intro rest bare
  have closed : rest.head? ≠ some quote := fun reopened => (bare _ reopened).2 rfl
  have notTick : quote ≠ '\'' := by
    rintro rfl
    exact apart.mark (by decide)
  rw [delimited, String.toList_ofList, List.cons_append, List.append_assoc,
    List.singleton_append, Reading.ofText?, if_neg notTick, if_pos rfl]
  split
  · rename_i text after found
    rw [region?_double closed] at found
    obtain ⟨rfl, rfl⟩ := Prod.mk.inj (Option.some.inj found)
    rw [String.ofList_toList, Reading.name, delimited]
  · rename_i found
    simp [region?_double closed] at found

theorem Bare.cons {c : Char} (isPlain : isPlain c) (rest : List Char) : Bare quote (c :: rest) := by
  intro d isHead
  obtain rfl : c = d := by simpa using isHead
  exact ne_mark_of_isPlain apart isPlain

/-- After plain text the same regions can be open as before it, and none once there is some. -/
theorem bare_plain {text : String} (plain : Plain text) {rest : List Char}
    (bare : text = "" → Bare quote rest) : Bare quote (text.toList ++ rest) := by
  cases chars : text.toList with
  | nil => exact bare (String.toList_eq_nil_iff.mp chars)
  | cons c cs =>
      rw [Plain, chars, List.all_cons, Bool.and_eq_true] at plain
      exact .cons apart plain.1 _

end Pieces

/-- A text that can stand behind a quoted region. -/
structure Tail (quote : Char) (text : String) (reading : Reading) : Prop where
  shows : Shows quote (Bare quote) text reading
  bare : ∀ rest, Bare quote rest → Bare quote (text.toList ++ rest)

section Sequences

variable {quote : Char} {follow : List Char → Prop} {text other outside others : String}
  {literals moreLiterals names moreNames : List String}

theorem Shows.trail (first : Shows quote (Bare quote) text ⟨outside, literals, names⟩)
    (second : Tail quote other ⟨others, moreLiterals, moreNames⟩) :
    Shows quote (Bare quote) (text ++ other)
      ⟨outside ++ others, literals ++ moreLiterals, names ++ moreNames⟩ :=
  first.append second.shows second.bare

theorem Tail.nil : Tail quote "" ⟨"", [], []⟩ := by
  refine ⟨fun rest _ => ?_, fun rest => id⟩
  have nothing : (Reading.append ⟨"", [], []⟩) = id := funext Reading.empty_append
  rw [nothing, Option.map_id]
  rfl

variable (apart : StandsApart quote)

include apart

/-- Plain text in front of something. -/
theorem Shows.before (shows : Shows quote follow text ⟨outside, literals, names⟩) (word : String)
    (plain : Plain word) : Shows quote follow (word ++ text) ⟨word ++ outside, literals, names⟩ :=
  (shows_plain apart plain).append shows fun _ _ => trivial

/-- Plain text behind something. -/
theorem Shows.behind (shows : Shows quote (Bare quote) text ⟨outside, literals, names⟩)
    (word : String) (plain : Plain word) :
    Shows quote (Bare quote) (text ++ word) ⟨outside ++ word, literals, names⟩ := by
  have both := shows.append ((shows_plain apart plain).mono fun _ _ => trivial)
    fun _ bare => bare_plain apart plain fun _ => bare
  rwa [List.append_nil, List.append_nil] at both

/-- Behind plain text that is not empty anything may come next. -/
theorem Shows.closed (shows : Shows quote (Bare quote) text ⟨outside, literals, names⟩)
    (word : String) (plain : Plain word) (nonempty : word ≠ "") :
    Shows quote (fun _ => True) (text ++ word) ⟨outside ++ word, literals, names⟩ := by
  have both := shows.append (shows_plain apart plain)
    fun _ _ => bare_plain apart plain fun isEmpty => absurd isEmpty nonempty
  rwa [List.append_nil, List.append_nil] at both

/-- Two things with plain text between them. -/
theorem Shows.joined (first : Shows quote (Bare quote) text ⟨outside, literals, names⟩)
    (word : String) (plain : Plain word) (nonempty : word ≠ "")
    (second : Shows quote follow other ⟨others, moreLiterals, moreNames⟩) :
    Shows quote follow (text ++ word ++ other)
      ⟨outside ++ word ++ others, literals ++ moreLiterals, names ++ moreNames⟩ :=
  (first.closed apart word plain nonempty).append second fun _ _ => trivial

/-- What follows plain text that is not empty can stand behind a region with it. -/
theorem Tail.after (shows : Shows quote (Bare quote) text ⟨outside, literals, names⟩)
    (word : String) (plain : Plain word) (nonempty : word ≠ "") :
    Tail quote (word ++ text) ⟨word ++ outside, literals, names⟩ := by
  refine ⟨shows.before apart word plain, fun rest _ => ?_⟩
  rw [String.toList_append, List.append_assoc]
  exact bare_plain apart plain fun isEmpty => absurd isEmpty nonempty

theorem Tail.spaced (shows : Shows quote (Bare quote) text ⟨outside, literals, names⟩) :
    Tail quote (" " ++ text) ⟨" " ++ outside, literals, names⟩ :=
  .after apart shows " " (by decide) (by decide)

/-- Items in a row, each written in its own way: what each of them shows, the row shows in order. -/
theorem shows_items {α : Type} {write : α → Except RenderError String} {blank : α → α}
    {literalsOf namesOf : α → List String} {items : List α} {texts : List String}
    (written : items.mapM write = .ok texts)
    (each : ∀ item ∈ items, ∀ text, write item = .ok text → ∃ outside,
      write (blank item) = .ok outside ∧
        Shows quote (Bare quote) text ⟨outside, literalsOf item, namesOf item⟩) :
    ∃ outsides, (items.map blank).mapM write = .ok outsides ∧
      Shows quote (Bare quote) (commaSeparated texts)
        ⟨commaSeparated outsides, items.flatMap literalsOf, items.flatMap namesOf⟩ := by
  induction items generalizing texts with
  | nil =>
      obtain rfl := pure_eq_ok.mp written
      exact ⟨[], rfl, Tail.nil.shows⟩
  | cons item rest ih =>
      rw [List.mapM_cons] at written
      simp only [bind_eq_ok, pure_eq_ok] at written
      obtain ⟨text, itemWritten, others, restWritten, rfl⟩ := written
      rw [List.forall_mem_cons] at each
      obtain ⟨outside, blankWritten, shows⟩ := each.1 text itemWritten
      obtain ⟨outsides, blanksWritten, showsRest⟩ := ih restWritten each.2
      refine ⟨outside :: outsides, ?_, ?_⟩
      · rw [List.map_cons, List.mapM_cons, blankWritten, blanksWritten]
        rfl
      · -- a comma stands behind the first text only if there is a second one
        cases rest with
        | nil =>
            obtain rfl := pure_eq_ok.mp restWritten
            obtain rfl := pure_eq_ok.mp blanksWritten
            simpa [commaSeparated] using shows
        | cons next more =>
            obtain ⟨second, others, -, -, rfl⟩ :=
              List.forall₂_cons_left_iff.mp (mapM_eq_ok.mp restWritten)
            obtain ⟨secondOutside, outsides, -, -, rfl⟩ :=
              List.forall₂_cons_left_iff.mp (mapM_eq_ok.mp blanksWritten)
            simp only [commaSeparated, String.intercalate_cons_cons, List.flatMap_cons]
              at showsRest ⊢
            exact shows.joined apart ", " (by decide) (by decide) showsRest

end Sequences

end DdlTree
