/-! # Changes

Changes in place that can fail. The value that is changed is carried through, so a change says
itself what it leaves when it fails: what it has written by then stays written.
-/

namespace DdlTree

/-- A change of a value. -/
abbrev ChangeM (ε σ : Type) :=
  EStateM ε σ

namespace ChangeM

variable {ε σ : Type} {change : ChangeM ε σ Unit} {before after : σ} {error : ε}

/-- The value that a change leaves, whether it fails or not. -/
def left (change : ChangeM ε σ Unit) (before : σ) : σ :=
  match change.run before with
  | .ok _ after => after
  | .error _ after => after

/-- The changed value, or why the change failed. -/
def outcome (change : ChangeM ε σ Unit) (before : σ) : Except ε σ :=
  match change.run before with
  | .ok _ after => .ok after
  | .error error _ => .error error

/-- A change that fails leaves the value as it was. -/
def AllOrNothing (change : ChangeM ε σ Unit) : Prop :=
  ∀ before error after, change.run before = .error error after → after = before

theorem left_of_outcome_ok (changed : change.outcome before = .ok after) :
    change.left before = after := by
  rw [outcome] at changed
  rw [left]
  split at changed
  · exact Except.ok.inj changed
  · cases changed

theorem AllOrNothing.left_of_outcome_error (careful : change.AllOrNothing)
    (failed : change.outcome before = .error error) : change.left before = before := by
  rw [outcome] at failed
  rw [left]
  split at failed
  · cases failed
  · exact careful _ _ _ ‹_›

end ChangeM

end DdlTree
