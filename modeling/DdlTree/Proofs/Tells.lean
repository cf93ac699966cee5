import DdlTree.Proofs.StatementTokens

/-! # What tokens tell

The tokens of a part tell something about the part if no other part that differs in it starts the
same sequence of tokens. What parts tell on their own, they tell one after another, as long as what
comes next never looks like more of what came before.
-/

namespace DdlTree

/-- If there is a first token, it is an allowed one. -/
def Starts (allowed : Token → Prop) (tokens : List Token) : Prop :=
  ∀ t ∈ tokens.head?, allowed t

section Starts

variable {allowed other : Token → Prop} {tokens rest : List Token}

theorem Starts.nil : Starts allowed [] := by
  intro t isHead
  simp at isHead

theorem Starts.cons {t : Token} (head : allowed t) : Starts allowed (t :: rest) := by
  intro u isHead
  obtain rfl : t = u := by simpa using isHead
  exact head

theorem Starts.mono (starts : Starts allowed tokens) (weaker : ∀ t, allowed t → other t) :
    Starts other tokens :=
  fun t isHead => weaker t (starts t isHead)

theorem Starts.append (first : Starts allowed tokens) (second : Starts allowed rest) :
    Starts allowed (tokens ++ rest) := by
  cases tokens with
  | nil => exact second
  | cons t tokens => exact .cons (first t rfl)

theorem Starts.wordsIf (wanted : Bool) {word : String} (words : List String)
    (head : allowed (.word word)) : Starts allowed (Token.wordsIf wanted (word :: words)) := by
  cases wanted with
  | false => exact .nil
  | true => exact .cons head

theorem Starts.optional {α : Type} {tokens : α → List Token}
    (starts : ∀ a, Starts allowed (tokens a)) (part? : Option α) :
    Starts allowed (Token.optional tokens part?) := by
  cases part? with
  | none => exact .nil
  | some part => exact starts part

theorem Starts.group {items : List (List Token)} (head : allowed (.symbol "(")) :
    Starts allowed (Token.group items) := by
  cases items with
  | nil => exact .nil
  | cons item items => exact .cons head

theorem Starts.commas {items : List (List Token)} (comma : allowed (.symbol ","))
    (starts : ∀ item ∈ items, Starts allowed item) : Starts allowed (Token.commas items) := by
  induction items with
  | nil => exact .nil
  | cons item items ih =>
      rw [List.forall_mem_cons] at starts
      cases items with
      | nil =>
          rw [Token.commas, List.intercalate_singleton]
          exact starts.1
      | cons next items =>
          rw [Token.commas, List.intercalate_cons_cons]
          exact (starts.1.append (.cons comma)).append (ih starts.2)

end Starts

/-- Parts with the same tokens, and something allowed after them, have the same image, and the same
    comes after them. -/
def Tells {α β : Type} (valid : α → Prop) (allowed : Token → Prop) (tokens : α → List Token)
    (image : α → β) : Prop :=
  ∀ ⦃a b⦄, valid a → valid b → ∀ ⦃rest after⦄, Starts allowed rest → Starts allowed after →
    tokens a ++ rest = tokens b ++ after → image a = image b ∧ rest = after

namespace Tells

variable {α β γ : Type} {valid : α → Prop} {allowed next : Token → Prop}
  {tokens others : α → List Token} {image : α → β} {otherImage : α → γ}

theorem image_eq (tells : Tells valid allowed tokens image) {a b : α} (validA : valid a)
    (validB : valid b) (same : tokens a = tokens b) : image a = image b := by
  refine (tells validA validB .nil .nil ?_).1
  rw [same]

theorem mono (tells : Tells valid allowed tokens image) (weaker : ∀ t, next t → allowed t) :
    Tells valid next tokens image :=
  fun _ _ validA validB _ _ starts startsAfter =>
    tells validA validB (starts.mono weaker) (startsAfter.mono weaker)

theorem congr (tells : Tells valid allowed tokens image)
    (same : ∀ a, valid a → others a = tokens a) : Tells valid allowed others image := by
  intro a b validA validB
  rw [same a validA, same b validB]
  exact tells validA validB

/-- What the image tells, the tokens tell. -/
theorem imp (tells : Tells valid allowed tokens image)
    (implies : ∀ a b, valid a → valid b → image a = image b → otherImage a = otherImage b) :
    Tells valid allowed tokens otherImage := by
  intro a b validA validB rest after starts startsAfter same
  obtain ⟨sameImage, sameRest⟩ := tells validA validB starts startsAfter same
  exact ⟨implies a b validA validB sameImage, sameRest⟩

theorem map (tells : Tells valid allowed tokens image) (f : β → γ) :
    Tells valid allowed tokens fun a => f (image a) :=
  tells.imp fun _ _ _ _ => congrArg f

/-- The part of something tells what it tells on its own. -/
theorem of {δ : Type} {whole : δ → Prop} (tells : Tells valid allowed tokens image) (part : δ → α)
    (valid_part : ∀ d, whole d → valid (part d)) :
    Tells whole allowed (fun d => tokens (part d)) (fun d => image (part d)) :=
  fun _ _ validA validB => tells (valid_part _ validA) (valid_part _ validB)

/-- Two parts one after the other tell what each of them tells, if the second one can come after
    the first. -/
theorem append (first : Tells valid allowed tokens image)
    (second : Tells valid next others otherImage)
    (link : ∀ a, valid a → Starts allowed (others a)) :
    Tells valid (fun t => allowed t ∧ next t) (fun a => tokens a ++ others a)
      (fun a => (image a, otherImage a)) := by
  intro a b validA validB rest after starts startsAfter same
  simp only [List.append_assoc] at same
  have linkA := (link a validA).append (starts.mono fun _ => And.left)
  have linkB := (link b validB).append (startsAfter.mono fun _ => And.left)
  obtain ⟨sameFirst, same⟩ := first validA validB linkA linkB same
  obtain ⟨sameSecond, same⟩ := second validA validB (starts.mono fun _ => And.right)
    (startsAfter.mono fun _ => And.right) same
  exact ⟨Prod.ext sameFirst sameSecond, same⟩

/-- Keywords in front tell nothing. -/
theorem words_append (words : List String) (second : Tells valid next others otherImage) :
    Tells valid next (fun a => Token.words words ++ others a) otherImage := by
  intro a b validA validB rest after starts startsAfter same
  simp only [List.append_assoc] at same
  exact second validA validB starts startsAfter (List.append_cancel_left same)

/-- Keywords behind tell nothing, and anything can come after them. -/
theorem append_words (first : Tells valid allowed tokens image) (word : String)
    (words : List String) (head : allowed (.word word)) :
    Tells valid (fun _ => True) (fun a => tokens a ++ Token.words (word :: words)) image := by
  intro a b validA validB rest after _ _ same
  simp only [List.append_assoc] at same
  have link (rest : List Token) : Starts allowed (Token.words (word :: words) ++ rest) := .cons head
  obtain ⟨sameImage, same⟩ := first validA validB (link rest) (link after) same
  exact ⟨sameImage, List.append_cancel_left same⟩

/-- Keywords tell which ones of them they are if none go on like others. -/
theorem words (valid : α → Prop) (words : β → List String)
    (prefixFree : ∀ k l, Token.words (words k) <+: Token.words (words l) → k = l) (choice : α → β) :
    Tells valid (fun _ => True) (fun a => Token.words (words (choice a))) choice := by
  intro a b _ _ rest after _ _ same
  have prefixA : Token.words (words (choice a)) <+: Token.words (words (choice a)) ++ rest :=
    List.prefix_append ..
  have prefixB : Token.words (words (choice b)) <+: Token.words (words (choice a)) ++ rest :=
    same ▸ List.prefix_append ..
  have chosen : choice a = choice b := by
    rcases List.prefix_or_prefix_of_prefix prefixA prefixB with longer | shorter
    · exact prefixFree _ _ longer
    · exact (prefixFree _ _ shorter).symm
  simp only [chosen] at same
  exact ⟨chosen, List.append_cancel_left same⟩

theorem word (valid : α → Prop) (choice : α → String) :
    Tells valid (fun _ => True) (fun a => Token.words [choice a]) choice := by
  intro a b _ _ rest after _ _ same
  obtain ⟨sameWord, same⟩ := List.cons.inj same
  exact ⟨Token.word.inj sameWord, same⟩

/-- Keywords tell whether they are there if they do not come next. -/
theorem wordsIf (valid : α → Prop) (word : String) (words : List String) (wanted : α → Bool) :
    Tells valid (· ≠ .word word) (fun a => Token.wordsIf (wanted a) (word :: words)) wanted := by
  intro a b _ _ rest after starts startsAfter same
  cases wantedA : wanted a with
  | false => cases wantedB : wanted b with
      | false =>
          simp only [wantedA, wantedB] at same
          exact ⟨rfl, same⟩
      | true =>
          simp only [wantedA, wantedB] at same
          obtain rfl : rest = _ := same
          exact absurd rfl (starts _ rfl)
  | true => cases wantedB : wanted b with
      | false =>
          simp only [wantedA, wantedB] at same
          obtain rfl : _ = after := same
          exact absurd rfl (startsAfter _ rfl)
      | true =>
          simp only [wantedA, wantedB] at same
          exact ⟨rfl, List.append_cancel_left same⟩

/-- An optional part tells whether it is there, and what it tells, if it cannot come next. -/
theorem optional (tells : Tells valid allowed tokens image) (next : Token → Prop)
    (opens : ∀ a, valid a → ∃ t rest, tokens a = t :: rest ∧ ¬next t) :
    Tells (fun part? => ∀ a ∈ part?, valid a) (fun t => allowed t ∧ next t)
      (Token.optional tokens) (Option.map image) := by
  intro a? b? validA validB rest after starts startsAfter same
  cases a? with
  | none => cases b? with
      | none => exact ⟨rfl, same⟩
      | some b =>
          obtain ⟨t, more, isTokens, notNext⟩ := opens b (validB b rfl)
          obtain rfl : rest = tokens b ++ after := same
          rw [isTokens] at starts
          exact absurd (starts t rfl).2 notNext
  | some a => cases b? with
      | none =>
          obtain ⟨t, more, isTokens, notNext⟩ := opens a (validA a rfl)
          obtain rfl : tokens a ++ rest = after := same
          rw [isTokens] at startsAfter
          exact absurd (startsAfter t rfl).2 notNext
      | some b =>
          obtain ⟨sameImage, same⟩ := tells (validA a rfl) (validB b rfl)
            (starts.mono fun _ => And.left) (startsAfter.mono fun _ => And.left) same
          exact ⟨congrArg some sameImage, same⟩

theorem optional_of_head (tells : Tells valid allowed tokens image) {t : Token}
    (head : ∀ a, (tokens a).head? = some t) :
    Tells (fun part? => ∀ a ∈ part?, valid a) (fun u => allowed u ∧ u ≠ t)
      (Token.optional tokens) (Option.map image) := by
  refine tells.optional (· ≠ t) fun a _ => ?_
  obtain ⟨rest, isTokens⟩ := List.head?_eq_some_iff.mp (head a)
  exact ⟨t, rest, isTokens, fun other => other rfl⟩

/-- Parentheses end what is in them. -/
theorem parens (inside : Tells valid allowed tokens image) (closing : allowed (.symbol ")")) :
    Tells valid (fun _ => True) (fun a => Token.parens (tokens a)) image := by
  intro a b validA validB rest after _ _ same
  simp only [Token.parens, List.cons_append, List.append_assoc, List.cons.injEq, true_and] at same
  obtain ⟨sameImage, same⟩ := inside validA validB (.cons closing) (.cons closing) same
  exact ⟨sameImage, (List.cons.inj same).2⟩

/-- The tokens of items that come behind another one. -/
private def further (items : List (List Token)) : List Token :=
  items.flatMap fun item => .symbol "," :: item

private theorem further_cons (item : List Token) (items : List (List Token)) :
    further (item :: items) = .symbol "," :: Token.commas (item :: items) := by
  induction items generalizing item with
  | nil => simp [Token.commas, further]
  | cons other items ih =>
      rw [further, List.flatMap_cons, ← further, ih, Token.commas, Token.commas,
        List.intercalate_cons_cons]
      simp

private theorem starts_further (comma : allowed (.symbol ",")) {rest : List Token}
    (starts : Starts allowed rest) (items : List (List Token)) :
    Starts allowed (further items ++ rest) := by
  cases items with
  | nil => exact starts
  | cons item items => exact .cons comma

private theorem further_tells (item : Tells valid allowed tokens image)
    (comma : allowed (.symbol ",")) :
    Tells (fun items => ∀ a ∈ items, valid a) (fun t => allowed t ∧ t ≠ .symbol ",")
      (fun items => further (items.map tokens)) (List.map image) := by
  intro items
  induction items with
  | nil =>
      intro others _ _ rest after starts _ same
      cases others with
      | nil => exact ⟨rfl, same⟩
      | cons b others =>
          obtain rfl : rest = _ := same
          exact absurd rfl (starts _ rfl).2
  | cons a items ih =>
      intro others validItems validOthers rest after starts startsAfter same
      cases others with
      | nil =>
          obtain rfl : _ = after := same
          exact absurd rfl (startsAfter _ rfl).2
      | cons b others =>
          rw [List.forall_mem_cons] at validItems validOthers
          simp only [List.map_cons, further, List.flatMap_cons, List.cons_append, List.append_assoc,
            List.cons.injEq, true_and] at same
          have link := starts_further comma (starts.mono fun _ => And.left) (items.map tokens)
          have linkAfter := starts_further comma (startsAfter.mono fun _ => And.left)
            (others.map tokens)
          obtain ⟨sameImage, same⟩ := item validItems.1 validOthers.1 link linkAfter same
          obtain ⟨sameImages, same⟩ := ih validItems.2 validOthers.2 starts startsAfter same
          rw [List.map_cons, List.map_cons, sameImage, sameImages]
          exact ⟨rfl, same⟩

/-- Items with commas between them tell what each item tells. -/
theorem commas (item : Tells valid allowed tokens image) (comma : allowed (.symbol ",")) :
    Tells (fun items => items ≠ [] ∧ ∀ a ∈ items, valid a)
      (fun t => allowed t ∧ t ≠ .symbol ",")
      (fun items => Token.commas (items.map tokens)) (List.map image) := by
  rintro (_ | ⟨a, items⟩) (_ | ⟨b, others⟩) ⟨nonempty, validItems⟩ ⟨nonemptyOthers, validOthers⟩
    rest after starts startsAfter same
  · contradiction
  · contradiction
  · contradiction
  · apply further_tells item comma validItems validOthers starts startsAfter
    simp only [List.map_cons, further_cons, List.cons_append] at same ⊢
    rw [same]

/-- A group tells what its items tell if no other group comes next. -/
theorem group (item : Tells valid allowed tokens image) (comma : allowed (.symbol ","))
    (closing : allowed (.symbol ")")) :
    Tells (fun items => ∀ a ∈ items, valid a) (· ≠ .symbol "(")
      (fun items => Token.group (items.map tokens)) (List.map image) := by
  rintro (_ | ⟨a, items⟩) (_ | ⟨b, others⟩) validItems validOthers rest after starts startsAfter
    same
  · exact ⟨rfl, same⟩
  · obtain rfl : rest = _ := same
    exact absurd rfl (starts _ rfl)
  · obtain rfl : _ = after := same
    exact absurd rfl (startsAfter _ rfl)
  · have inside := (item.commas comma).parens ⟨closing, by decide⟩
    have free := starts.mono fun _ _ => trivial
    have freeAfter := startsAfter.mono fun _ _ => trivial
    exact inside ⟨List.cons_ne_nil a items, validItems⟩ ⟨List.cons_ne_nil b others, validOthers⟩
      free freeAfter same

end Tells

end DdlTree
