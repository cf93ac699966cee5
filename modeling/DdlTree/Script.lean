import DdlTree.Node

/-! # Scripts

A list of statements, in the order in which they were added.
-/

namespace DdlTree

/-- Statements in order. -/
structure Script where
  statements : List Statement
  deriving Repr, DecidableEq

namespace Script

def empty : Script := ⟨[]⟩

/-- Add a statement at the end; any other node is refused. -/
def pushStep (node : Node) : ChangeM BuildError Script Unit :=
  match node with
  | .statement statement => modify fun script => ⟨script.statements ++ [statement]⟩
  | other => throw (.malformed other.kind .notStatement)

/-- The script with a statement added. -/
def push (script : Script) (node : Node) : Except BuildError Script :=
  (pushStep node).outcome script

/-- The script of a list of nodes, all of which have to be statements. -/
def ofNodes (nodes : List Node) : Except BuildError Script :=
  nodes.foldlM push empty

def size (script : Script) : Nat :=
  script.statements.length

def isEmpty (script : Script) : Bool :=
  script.statements.isEmpty

end Script

end DdlTree
