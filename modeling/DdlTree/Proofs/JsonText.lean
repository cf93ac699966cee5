import DdlTree.Json.Basic
import DdlTree.Json.Document
import DdlTree.Proofs.Numeral
import Mathlib.Tactic.IntervalCases

/-! # The text of a JSON value

No two JSON values are written alike. A value can be told from the start of any text that begins
with it, as long as no digit comes next; the reader of string literals tells where a string ends.
-/

namespace DdlTree.Json

open Document (units? hexUnit? shortEscape?)

/-! ## Strings -/

/-- A character is written as a backslash and a letter, as a code unit, or plainly. -/
private theorem escapedChar_cases (c : Char) :
    (∃ letter, shortEscape? letter = some c ∧ escapedChar c = ['\\', letter]) ∨
      (c.toNat < 0x20 ∧ escapedChar c =
        ['\\', 'u', '0', '0', Nat.digitChar (c.toNat / 16), Nat.digitChar (c.toNat % 16)]) ∨
      (c ≠ '"' ∧ c ≠ '\\' ∧ 0x20 ≤ c.toNat ∧ escapedChar c = [c]) := by
  unfold escapedChar
  split_ifs with quote escape _ _ _ _ _ control
  all_goals try (subst_vars; exact .inl ⟨_, rfl, rfl⟩)
  · exact .inr (.inl ⟨control, rfl⟩)
  · exact .inr (.inr ⟨quote, escape, Nat.le_of_not_lt control, rfl⟩)

private theorem units?_short {letter c : Char} (known : shortEscape? letter = some c)
    (rest : List Char) : units? ('\\' :: letter :: rest)
      = (units? rest).map fun (units, rest) => (c.toNat :: units, rest) := by
  have notUnit : letter ≠ 'u' := by
    rintro rfl
    cases known
  rw [units?]
  · cases units? rest <;> simp [known]
  · exact fun _ _ _ _ _ same => absurd same notUnit

private theorem hexUnit?_control {n : Nat} (control : n < 0x20) :
    hexUnit? '0' '0' (Nat.digitChar (n / 16)) (Nat.digitChar (n % 16)) = some n := by
  interval_cases n <;> rfl

private theorem units?_unit {a b c d : Char} {unit : Nat} (known : hexUnit? a b c d = some unit)
    (rest : List Char) : units? ('\\' :: 'u' :: a :: b :: c :: d :: rest)
      = (units? rest).map fun (units, rest) => (unit :: units, rest) := by
  rw [units?]
  cases units? rest <;> simp [known]

private theorem units?_plain {c : Char} (notQuote : c ≠ '"') (notEscape : c ≠ '\\')
    (shown : 0x20 ≤ c.toNat) (rest : List Char) : units? (c :: rest)
      = (units? rest).map fun (units, rest) => (c.toNat :: units, rest) := by
  rw [units?]
  · have allowed : ¬(decide (c.toNat < 0x20) || c == '\\') = true := by
      simpa [notEscape] using shown
    rw [if_neg allowed]
    cases units? rest <;> simp
  all_goals simp [notQuote, notEscape]

theorem units?_escapedChar (c : Char) (rest : List Char) : units? (escapedChar c ++ rest)
    = (units? rest).map fun (units, rest) => (c.toNat :: units, rest) := by
  rcases escapedChar_cases c with ⟨letter, known, own⟩ | ⟨control, own⟩ |
    ⟨notQuote, notEscape, shown, own⟩
  · rw [own]
    exact units?_short known rest
  · rw [own]
    exact units?_unit (hexUnit?_control control) rest
  · rw [own]
    exact units?_plain notQuote notEscape shown rest

/-- The reader of string literals finds the end of a string and what stands in it. -/
theorem units?_escaped (text rest : List Char) :
    units? (text.flatMap escapedChar ++ '"' :: rest) = some (text.map Char.toNat, rest) := by
  induction text with
  | nil => rfl
  | cons c text ih =>
      rw [List.flatMap_cons, List.append_assoc, units?_escapedChar, ih]
      rfl

theorem literal_cancel {a b : String} {r s : List Char}
    (same : (literal a).toList ++ r = (literal b).toList ++ s) : a = b ∧ r = s := by
  simp only [literal, String.toList_ofList, List.cons_append, List.append_assoc, List.nil_append,
    List.cons.injEq, true_and] at same
  have read := congrArg units? same
  simp only [units?_escaped, Option.some.injEq, Prod.mk.injEq] at read
  have text : a.toList = b.toList := (List.map_inj_right fun _ _ => Char.toNat_inj.mp).mp read.1
  exact ⟨String.toList_inj.mp text, read.2⟩

/-! ## Numbers -/

/-- A text that does not go on with a digit. -/
def NoDigit (rest : List Char) : Prop :=
  ∀ c ∈ rest.head?, c.isDigit = false

private theorem takeWhile_number (n : Nat) {rest : List Char} (ends : NoDigit rest) :
    ((toString n).toList ++ rest).takeWhile Char.isDigit = (toString n).toList := by
  rw [List.takeWhile_append_of_pos (Numeral.forall_isDigit_toString n)]
  cases rest with
  | nil => rw [List.takeWhile_nil, List.append_nil]
  | cons c rest => rw [List.takeWhile_cons_of_neg (by simp [ends c rfl]), List.append_nil]

theorem number_cancel {m n : Nat} {r s : List Char} (endsM : NoDigit r) (endsN : NoDigit s)
    (same : (toString m).toList ++ r = (toString n).toList ++ s) : m = n ∧ r = s := by
  have digits : (toString m).toList = (toString n).toList := by
    rw [← takeWhile_number m endsM, same, takeWhile_number n endsN]
  have rests : r = s := by
    rw [digits] at same
    exact List.append_cancel_left same
  exact ⟨Numeral.toString_injective (String.toList_inj.mp digits), rests⟩

/-! ## Values -/

/-- The text of a value on a line of the given level. -/
def written (level : Nat) (value : Json) : List Char :=
  (renderAt level value).toList

/-- The character that a value starts with, one for all numbers and one for both truth values. -/
def opening : Json → Char
  | .null => 'n'
  | .bool _ => 't'
  | .number _ => '0'
  | .string _ => '"'
  | .array _ => '['
  | .object _ => '\x7b'

/-- The opening of the values that start with a character. -/
private def openingOf (c : Char) : Char :=
  if c.isDigit then '0' else if c = 'f' then 't' else c

private theorem head_renderAt (level : Nat) (value : Json) :
    (renderAt level value).toList.head?.map openingOf = some value.opening := by
  cases value with
  | number n =>
      rw [renderAt]
      cases digits : (toString n).toList with
      | nil => simp at digits
      | cons c rest =>
          have isDigit := Numeral.forall_isDigit_toString n c (digits ▸ List.mem_cons_self)
          rw [List.head?_cons, Option.map_some, openingOf, if_pos isDigit, opening]
  | null => simp [renderAt, opening, openingOf]
  | bool value => cases value <;> simp [renderAt, opening, openingOf]
  | string text => simp [renderAt, literal, opening, openingOf]
  | array items => cases items <;> simp [renderAt, opening, openingOf]
  | object members => cases members <;> simp [renderAt, opening, openingOf]

private theorem opening_eq {level : Nat} {v w : Json} {r s : List Char}
    (same : (renderAt level v).toList ++ r = (renderAt level w).toList ++ s) :
    v.opening = w.opening := by
  have head (value : Json) (rest : List Char) :
      ((renderAt level value).toList ++ rest).head?.map openingOf = some value.opening := by
    have own := head_renderAt level value
    cases text : (renderAt level value).toList with
    | nil => simp [text] at own
    | cons c rest => simpa [text] using own
  have both := head v r
  rw [same, head w s] at both
  exact (Option.some.inj both).symm

private theorem noDigit_cons {c : Char} (other : c.isDigit = false) (rest : List Char) :
    NoDigit (c :: rest) := by
  intro d mem
  rw [← Option.some.inj mem, other]

/-- A way to write parts by which this part, and what comes after it, can be told from the text of
    both. -/
def Cancels {α : Type} (write : α → List Char) (part : α) : Prop :=
  ∀ ⦃other : α⦄ ⦃r s : List Char⦄, NoDigit r → NoDigit s →
    write part ++ r = write other ++ s → part = other ∧ r = s

/-- Parts on lines of their own, with a comma after each but the last. -/
def lines {α : Type} (write : α → List Char) : List α → List Char
  | [] => []
  | [part] => write part
  | part :: rest => write part ++ ',' :: '\n' :: lines write rest

theorem lines_cons_cons {α : Type} (write : α → List Char) (part next : α) (rest : List α) :
    lines write (part :: next :: rest) = write part ++ ',' :: '\n' :: lines write (next :: rest) :=
  rfl

/-- Lines can be told from their text if the parts can. -/
theorem lines_cancel {α : Type} {write : α → List Char} {part other : α} {parts others : List α}
    {r s : List Char} (cancels : ∀ own ∈ part :: parts, Cancels write own)
    (same : lines write (part :: parts) ++ '\n' :: r = lines write (other :: others) ++ '\n' :: s) :
    part :: parts = other :: others ∧ r = s := by
  have endsLine (rest : List Char) : NoDigit ('\n' :: rest) := noDigit_cons rfl rest
  have endsPart (rest : List Char) : NoDigit (',' :: rest) := noDigit_cons rfl rest
  induction parts generalizing part other others with
  | nil =>
      have first := cancels part List.mem_cons_self
      cases others with
      | nil =>
          obtain ⟨rfl, rest⟩ := first (endsLine r) (endsLine s) same
          exact ⟨rfl, (List.cons.inj rest).2⟩
      | cons next others =>
          rw [lines_cons_cons, List.append_assoc] at same
          obtain ⟨-, rest⟩ := first (endsLine r) (endsPart _) same
          exact absurd (List.cons.inj rest).1 (by decide)
  | cons second parts ih =>
      have first := cancels part List.mem_cons_self
      rw [lines_cons_cons, List.append_assoc] at same
      cases others with
      | nil =>
          obtain ⟨-, rest⟩ := first (endsPart _) (endsLine s) same
          exact absurd (List.cons.inj rest).1 (by decide)
      | cons next others =>
          rw [lines_cons_cons, List.append_assoc] at same
          obtain ⟨rfl, rest⟩ := first (endsPart _) (endsPart _) same
          have others := ih (fun own mem => cancels own (List.mem_cons_of_mem _ mem))
            (List.cons.inj (List.cons.inj rest).2).2
          exact ⟨congrArg (part :: ·) others.1, others.2⟩

/-- An element of an array on its line. -/
def itemLine (level : Nat) (item : Json) : List Char :=
  (margin level).toList ++ written level item

/-- A member of an object on its line. -/
def memberLine (level : Nat) (member : String × Json) : List Char :=
  (margin level).toList ++ (literal member.1).toList ++ ':' :: ' ' ::
    written level member.2

theorem renderItems_eq (level : Nat) (items : List Json) :
    (renderItems level items).toList = lines (itemLine level) items := by
  induction items with
  | nil => simp [renderItems, lines]
  | cons item rest ih =>
      cases rest with
      | nil => simp [renderItems, lines, itemLine, written]
      | cons next rest => simp [renderItems, lines, itemLine, written, ← ih]

theorem renderMembers_eq (level : Nat) (members : List (String × Json)) :
    (renderMembers level members).toList = lines (memberLine level) members := by
  induction members with
  | nil => simp [renderMembers, lines]
  | cons member rest ih =>
      cases rest with
      | nil => simp [renderMembers, lines, memberLine, written]
      | cons next rest => simp [renderMembers, lines, memberLine, written, ← ih]

theorem itemLine_cancel {level : Nat} {item : Json}
    (cancels : Cancels (written level) item) :
    Cancels (itemLine level) item := by
  intro other r s endsItem endsOther same
  simp only [itemLine, List.append_assoc, List.append_cancel_left_eq] at same
  exact cancels endsItem endsOther same

theorem memberLine_cancel {level : Nat} {member : String × Json}
    (cancels : Cancels (written level) member.2) :
    Cancels (memberLine level) member := by
  intro other r s endsMember endsOther same
  simp only [memberLine, List.append_assoc, List.append_cancel_left_eq] at same
  obtain ⟨name, rest⟩ := literal_cancel same
  obtain ⟨value, rest⟩ := cancels endsMember endsOther (by simpa using rest)
  exact ⟨Prod.ext name value, rest⟩

/-- Parts between two brackets, on lines of their own if there are any. -/
def block {α : Type} (opens closes : Char) (level : Nat) (write : α → List Char) :
    List α → List Char
  | [] => [opens, closes]
  | part :: rest =>
      opens :: '\n' :: lines write (part :: rest) ++ '\n' :: ((margin level).toList ++ [closes])

/-- What stands between two brackets can be told if each part can. -/
theorem block_cancel {α : Type} {opens closes : Char} {level : Nat} {write : α → List Char}
    {parts others : List α} {r s : List Char} (closing : closes ≠ '\n')
    (cancels : ∀ part ∈ parts, Cancels write part)
    (same : block opens closes level write parts ++ r
      = block opens closes level write others ++ s) :
    parts = others ∧ r = s := by
  cases parts with
  | nil =>
      cases others with
      | nil => exact ⟨rfl, List.append_cancel_left same⟩
      | cons other others => simp [block, closing] at same
  | cons part parts =>
      cases others with
      | nil => simp [block, closing.symm] at same
      | cons other others =>
          simp only [block, List.cons_append, List.append_assoc, List.cons.injEq, true_and] at same
          obtain ⟨sameParts, rest⟩ := lines_cancel cancels same
          exact ⟨sameParts, by simpa using rest⟩

theorem written_array (level : Nat) (items : List Json) :
    written level (.array items) = block '[' ']' level (itemLine (level + 1)) items := by
  cases items with
  | nil => simp [written, renderAt, block]
  | cons item items => simp [written, renderAt, block, renderItems_eq]

theorem written_object (level : Nat) (members : List (String × Json)) :
    written level (.object members)
      = block '\x7b' '\x7d' level (memberLine (level + 1)) members := by
  cases members with
  | nil => simp [written, renderAt, block]
  | cons member members => simp [written, renderAt, block, renderMembers_eq]

theorem array_cancel {level : Nat} {items : List Json}
    (cancels : ∀ item ∈ items, Cancels (written (level + 1)) item) :
    Cancels (written level) (.array items) := by
  intro other r s _ _ same
  cases other with
  | array others =>
      rw [written_array, written_array] at same
      have itemsCancel := fun item mem => itemLine_cancel (cancels item mem)
      obtain ⟨sameItems, rest⟩ := block_cancel (by decide) itemsCancel same
      exact ⟨congrArg array sameItems, rest⟩
  | _ => cases opening_eq same

theorem object_cancel {level : Nat} {members : List (String × Json)}
    (cancels : ∀ member ∈ members, Cancels (written (level + 1)) member.2) :
    Cancels (written level) (.object members) := by
  intro other r s _ _ same
  cases other with
  | object others =>
      rw [written_object, written_object] at same
      have membersCancel := fun member mem => memberLine_cancel (cancels member mem)
      obtain ⟨sameMembers, rest⟩ := block_cancel (by decide) membersCancel same
      exact ⟨congrArg object sameMembers, rest⟩
  | _ => cases opening_eq same

theorem scalar_cancel {level : Nat} {value : Json} (noArray : ∀ items, value ≠ .array items)
    (noObject : ∀ members, value ≠ .object members) : Cancels (written level) value := by
  intro other r s endsValue endsOther same
  have sameOpening := opening_eq same
  cases value with
  | null =>
      cases other with
      | null => exact ⟨rfl, List.append_cancel_left same⟩
      | _ => cases sameOpening
  | bool a =>
      cases other with
      | bool b => cases a <;> cases b <;> simp [written, renderAt] at same ⊢ <;> exact same
      | _ => cases sameOpening
  | number m =>
      cases other with
      | number n =>
          simp only [written, renderAt] at same
          obtain ⟨rfl, rest⟩ := number_cancel endsValue endsOther same
          exact ⟨rfl, rest⟩
      | _ => cases sameOpening
  | string a =>
      cases other with
      | string b =>
          simp only [written, renderAt] at same
          obtain ⟨rfl, rest⟩ := literal_cancel same
          exact ⟨rfl, rest⟩
      | _ => cases sameOpening
  | array items => exact absurd rfl (noArray items)
  | object members => exact absurd rfl (noObject members)

/-- A value, and what comes after it, can be told from the text of both. -/
theorem written_cancel (level : Nat) : (value : Json) → Cancels (written level) value
  | .array items => array_cancel fun item _mem => written_cancel (level + 1) item
  | .object members => object_cancel fun member _mem => written_cancel (level + 1) member.2
  | .null | .bool _ | .number _ | .string _ => scalar_cancel nofun nofun
termination_by value => sizeOf value
decreasing_by
  · have below := List.sizeOf_lt_of_mem _mem
    rw [array.sizeOf_spec]
    omega
  · have below := List.sizeOf_lt_of_mem _mem
    have second : sizeOf member.2 < sizeOf member := by
      cases member
      simp only [Prod.mk.sizeOf_spec]
      omega
    rw [object.sizeOf_spec]
    omega

/-- No two values have one text. -/
theorem render_injective {v w : Json} (same : v.render = w.render) : v = w := by
  have ends : NoDigit [] := by simp [NoDigit]
  exact (written_cancel 0 v ends ends (congrArg (String.toList · ++ []) same)).1

end DdlTree.Json
