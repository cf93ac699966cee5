import DdlTree.Node.Walk
import DdlTree.Render.Node
import DdlTree.Proofs.Outcome

/-! # Frames

A frame is what a node writes around the texts of its children. Frames are put one behind the other
as the texts that they come from are.
-/

namespace DdlTree

/-- Text with places for children in it. -/
inductive Frame where
  /-- What stands behind the last child. -/
  | last (text : String)
  /-- What stands in front of a child, and the frame behind that child. -/
  | child (before : String) (rest : Frame)
  deriving Repr, DecidableEq

namespace Frame

/-- How many children there are places for. -/
def places : Frame → Nat
  | .last _ => 0
  | .child _ rest => rest.places + 1

/-- The frame with texts in its places. -/
def fill : Frame → List String → String
  | .last text, _ => text
  | .child before rest, text :: texts => before ++ text ++ rest.fill texts
  | .child before _, [] => before

/-- A frame with a text in front of it. -/
def precede (text : String) : Frame → Frame
  | .last other => .last (text ++ other)
  | .child before rest => .child (text ++ before) rest

def append : Frame → Frame → Frame
  | .last text, other => other.precede text
  | .child before rest, other => .child before (rest.append other)

instance : Append Frame := ⟨append⟩

/-- A place with nothing around it. -/
def place : Frame := .child "" (.last "")

/-- A place with text around it, for a part that may be missing. -/
def optional {α : Type} (before after : String) : Option α → Frame
  | some _ => .child before (.last after)
  | none => .last ""

/-- Frames in a row, with a comma and a space between them. -/
def separated : List Frame → Frame
  | [] => .last ""
  | [frame] => frame
  | frame :: others => frame ++ Frame.last ", " ++ separated others

theorem last_append (text : String) (frame : Frame) : last text ++ frame = frame.precede text :=
  rfl

theorem child_append (before : String) (frame other : Frame) :
    child before frame ++ other = child before (frame ++ other) :=
  rfl

@[simp] theorem places_precede (text : String) (frame : Frame) :
    (frame.precede text).places = frame.places := by
  cases frame <;> rfl

theorem places_append (frame other : Frame) :
    (frame ++ other).places = frame.places + other.places := by
  induction frame with
  | last text => rw [last_append, places_precede, places, Nat.zero_add]
  | child before rest ih => rw [child_append, places, ih, places, Nat.add_right_comm]

theorem fill_precede (text : String) (frame : Frame) (texts : List String) :
    (frame.precede text).fill texts = text ++ frame.fill texts := by
  cases frame with
  | last other => rfl
  | child before rest => cases texts <;> simp only [precede, fill, String.append_assoc]

theorem precede_append (text : String) (frame other : Frame) :
    frame.precede text ++ other = (frame ++ other).precede text := by
  cases frame with
  | last before =>
      cases other <;> simp only [precede, last_append, String.append_assoc]
  | child before rest => rfl

theorem append_assoc (first second third : Frame) :
    first ++ second ++ third = first ++ (second ++ third) := by
  induction first with
  | last text => rw [last_append, last_append, precede_append]
  | child before rest ih => rw [child_append, child_append, child_append, ih]

/-- Only whether a part is there matters to the text around it. -/
theorem optional_congr {α : Type} {before after : String} {part other : Option α}
    (same : part.isSome = other.isSome) :
    optional before after part = optional before after other := by
  cases part <;> cases other <;> first | rfl | cases same

end Frame

/-- A text is what nodes render to, in the places of a frame. -/
def Style.Fills (style : Style) (nodes : List Node) (frame : Frame) (text : String) : Prop :=
  frame.places = nodes.length ∧
    ∃ texts, nodes.mapM style.render = .ok texts ∧ text = frame.fill texts

namespace Style

variable {style : Style} {frame other : Frame} {nodes others : List Node} {text : String}

theorem fills_last {word : String} :
    style.Fills nodes (.last word) text ↔ nodes = [] ∧ text = word := by
  constructor
  · rintro ⟨none, texts, -, rfl⟩
    exact ⟨List.length_eq_zero_iff.mp none.symm, rfl⟩
  · rintro ⟨rfl, rfl⟩
    exact ⟨rfl, [], rfl, rfl⟩

theorem fills_child {before : String} :
    style.Fills nodes (.child before frame) text ↔ ∃ node rest first tail, nodes = node :: rest ∧
      style.render node = .ok first ∧ style.Fills rest frame tail ∧
      text = before ++ first ++ tail := by
  constructor
  · rintro ⟨many, texts, rendered, rfl⟩
    obtain ⟨node, rest, rfl⟩ := List.exists_cons_of_length_eq_add_one many.symm
    simp only [List.mapM_cons, bind_eq_ok, pure_eq_ok] at rendered
    obtain ⟨first, head, texts, tail, rfl⟩ := rendered
    exact ⟨node, rest, first, frame.fill texts, rfl, head,
      ⟨Nat.succ.inj many, texts, tail, rfl⟩, rfl⟩
  · rintro ⟨node, rest, first, tail, rfl, head, ⟨many, texts, rendered, rfl⟩, rfl⟩
    refine ⟨congrArg Nat.succ many, first :: texts, ?_, rfl⟩
    simp only [List.mapM_cons, bind_eq_ok, pure_eq_ok]
    exact ⟨first, head, texts, rendered, rfl⟩

theorem fills_precede {word : String} :
    style.Fills nodes (frame.precede word) text ↔
      ∃ tail, style.Fills nodes frame tail ∧ text = word ++ tail := by
  simp only [Fills, Frame.places_precede, Frame.fill_precede]
  constructor
  · rintro ⟨many, texts, rendered, rfl⟩
    exact ⟨_, ⟨many, texts, rendered, rfl⟩, rfl⟩
  · rintro ⟨tail, ⟨many, texts, rendered, rfl⟩, rfl⟩
    exact ⟨many, texts, rendered, rfl⟩

/-- Frames are filled one after the other. -/
theorem fills_append (many : frame.places = nodes.length) :
    style.Fills (nodes ++ others) (frame ++ other) text ↔
      ∃ first second, style.Fills nodes frame first ∧ style.Fills others other second ∧
        text = first ++ second := by
  -- the places of the first frame take the first nodes, one node a place
  induction frame generalizing nodes text with
  | last word =>
      obtain rfl := List.length_eq_zero_iff.mp many.symm
      simp only [List.nil_append, Frame.last_append, fills_precede, fills_last, true_and,
        exists_and_left, exists_eq_left]
  | child before rest ih =>
      obtain ⟨node, nodes, rfl⟩ := List.exists_cons_of_length_eq_add_one many.symm
      have follows := fun {text} => @ih nodes text (Nat.succ.inj many)
      simp only [List.cons_append, Frame.child_append, fills_child, List.cons.injEq]
      constructor
      · rintro ⟨_, _, first, tail, ⟨rfl, rfl⟩, head, filled, rfl⟩
        obtain ⟨second, third, inner, outer, rfl⟩ := follows.mp filled
        exact ⟨before ++ first ++ second, third, ⟨node, nodes, first, second, ⟨rfl, rfl⟩, head,
          inner, rfl⟩, outer, (String.append_assoc ..).symm⟩
      · rintro ⟨_, third, ⟨_, _, first, second, ⟨rfl, rfl⟩, head, inner, rfl⟩, outer, rfl⟩
        exact ⟨node, nodes ++ others, first, second ++ third, ⟨rfl, rfl⟩, head,
          follows.mpr ⟨second, third, inner, outer, rfl⟩, String.append_assoc ..⟩

/-- A step puts what nodes render to in the places of a frame, if it succeeds. -/
structure Composes (style : Style) (nodes : List Node) (frame : Except RenderError Frame)
    (step : Except RenderError String) : Prop where
  places : ∀ built, frame = .ok built → built.places = nodes.length
  fills : ∀ text, step = .ok text ↔ ∃ built, frame = .ok built ∧ style.Fills nodes built text

namespace Composes

variable {frame other : Except RenderError Frame} {step next : Except RenderError String}

/-- What a node writes by itself. -/
theorem own (style : Style) (step : Except RenderError String) :
    style.Composes [] (do return .last (← step)) step := by
  constructor
  · intro built ok
    obtain ⟨word, -, isLast⟩ := bind_eq_ok.mp ok
    obtain rfl := pure_eq_ok.mp isLast
    rfl
  · intro text
    cases step with
    | error error => simp [bind, Except.bind]
    | ok word => simp [bind, Except.bind, pure, Except.pure, fills_last, eq_comm]

theorem word (style : Style) (text : String) :
    style.Composes [] (pure (.last text)) (pure text) :=
  own style (pure text)

/-- A child. -/
theorem child (style : Style) (node : Node) :
    style.Composes [node] (pure Frame.place) (style.render node) := by
  constructor
  · intro built ok
    obtain rfl := pure_eq_ok.mp ok
    rfl
  · intro text
    simp [pure_eq_ok, Frame.place, fills_child, fills_last]

theorem andThen (first : style.Composes nodes frame step)
    (second : style.Composes others other next) :
    style.Composes (nodes ++ others) (do return (← frame) ++ (← other))
      (do return (← step) ++ (← next)) := by
  constructor
  · intro built ok
    simp only [bind_eq_ok, pure_eq_ok] at ok
    obtain ⟨left, isLeft, right, isRight, rfl⟩ := ok
    rw [Frame.places_append, first.places left isLeft, second.places right isRight,
      List.length_append]
  · intro text
    simp only [bind_eq_ok, pure_eq_ok]
    constructor
    · rintro ⟨a, isA, b, isB, rfl⟩
      obtain ⟨left, isLeft, fillsLeft⟩ := (first.fills a).mp isA
      obtain ⟨right, isRight, fillsRight⟩ := (second.fills b).mp isB
      exact ⟨_, ⟨left, isLeft, right, isRight, rfl⟩,
        (fills_append (first.places left isLeft)).mpr ⟨a, b, fillsLeft, fillsRight, rfl⟩⟩
    · rintro ⟨_, ⟨left, isLeft, right, isRight, rfl⟩, filled⟩
      obtain ⟨a, b, fillsLeft, fillsRight, rfl⟩ :=
        (fills_append (first.places left isLeft)).mp filled
      exact ⟨a, (first.fills a).mpr ⟨left, isLeft, fillsLeft⟩, b,
        (second.fills b).mpr ⟨right, isRight, fillsRight⟩, rfl⟩

/-- A word in front of what is composed. -/
theorem preceded (word : String) (composed : style.Composes nodes frame step) :
    style.Composes nodes (do return .last word ++ (← frame)) (do return word ++ (← step)) := by
  simpa only [List.nil_append, pure_bind] using (Composes.word style word).andThen composed

/-- A word behind what is composed. -/
theorem followed (word : String) (composed : style.Composes nodes frame step) :
    style.Composes nodes (do return (← frame) ++ .last word) (do return (← step) ++ word) := by
  simpa only [List.append_nil, pure_bind] using composed.andThen (.word style word)

/-- What is refused before anything is written. -/
theorem refuse {error : RenderError} :
    style.Composes nodes (.error error) (.error error) where
  places _ ok := nomatch ok
  fills _ := ⟨fun ok => (nomatch ok), fun ⟨_, ok, _⟩ => (nomatch ok)⟩

/-- Parts in a row, with a comma and a space between each two. -/
theorem separated {α : Type} {children : α → List Node} {frameOf : α → Except RenderError Frame}
    {render : α → Except RenderError String} {items : List α}
    (each : ∀ item ∈ items, style.Composes (children item) (frameOf item) (render item)) :
    style.Composes (items.flatMap children) (do return .separated (← items.mapM frameOf))
      (do return commaSeparated (← items.mapM render)) := by
  induction items with
  | nil => exact word style ""
  | cons first rest ih =>
      rw [List.forall_mem_cons] at each
      have others := ih each.2
      cases rest with
      | nil =>
          simpa only [List.flatMap_cons, List.flatMap_nil, List.append_nil, List.mapM_cons,
            List.mapM_nil, bind_assoc, pure_bind, Frame.separated, commaSeparated,
            String.intercalate_singleton, bind_pure] using each.1
      | cons second rest =>
          have both := each.1.andThen (others.preceded ", ")
          simpa only [List.flatMap_cons, List.nil_append, List.mapM_cons, bind_assoc, pure_bind,
            Frame.separated, Frame.append_assoc, commaSeparated, String.append_assoc,
            String.intercalate_cons_cons] using both

end Composes

end Style

end DdlTree
