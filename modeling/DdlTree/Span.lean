/-! # Source positions

The range that a node took up in the statement text it was read from. A position is carried along
and shown, and never decides anything.
-/

namespace DdlTree

/-- A range from `start` up to `stop`. Nodes that were not read from a text have `0` for both. -/
structure Span where
  start : Nat := 0
  stop : Nat := 0
  deriving Repr, DecidableEq, Inhabited

def Span.isEmpty (span : Span) : Bool :=
  span.start == span.stop

end DdlTree
