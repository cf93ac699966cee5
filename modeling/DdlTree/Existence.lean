import DdlTree.Error

/-! # Existence checks and drop behavior

The words that say what a statement does when its object is already there or already gone, and what
a drop does to the objects that depend on its own.
-/

namespace DdlTree

/-- Whether a statement applies only if its object exists, or only if it does not. -/
inductive ExistenceCheck where
  | noCondition
  | ifExists
  | ifNotExists
  deriving Repr, DecidableEq

namespace ExistenceCheck

def name : ExistenceCheck → String
  | .noCondition => "NoCondition"
  | .ifExists => "IfExists"
  | .ifNotExists => "IfNotExists"

/-- The words of an existence check in a statement. -/
def keyword? : ExistenceCheck → Option String
  | .noCondition => none
  | .ifExists => some "IF EXISTS"
  | .ifNotExists => some "IF NOT EXISTS"

def vocabulary : Vocabulary ExistenceCheck where
  noun := "existence check"
  words :=
    [("NO_CONDITION", .noCondition), ("IF_EXISTS", .ifExists), ("IF_NOT_EXISTS", .ifNotExists)]

/-- A statement that creates its object cannot ask for it to exist. -/
def forCreate (existence : ExistenceCheck) (kind : NodeKind) : Except BuildError Unit :=
  if existence = .ifExists then .error (.malformed kind .ifExistsOnCreate) else .ok ()

/-- A statement that drops its object cannot ask for it to be missing. -/
def forDrop (existence : ExistenceCheck) (kind : NodeKind) : Except BuildError Unit :=
  if existence = .ifNotExists then .error (.malformed kind .ifNotExistsOnDrop) else .ok ()

end ExistenceCheck

/-- What a drop does to dependent objects. -/
inductive DropBehavior where
  | cascade
  | restrict
  deriving Repr, DecidableEq

namespace DropBehavior

def name : DropBehavior → String
  | .cascade => "Cascade"
  | .restrict => "Restrict"

/-- The word of a drop behavior in a statement. -/
def keyword : DropBehavior → String
  | .cascade => "CASCADE"
  | .restrict => "RESTRICT"

def vocabulary : Vocabulary DropBehavior where
  noun := "drop behavior"
  words := [("CASCADE", .cascade), ("RESTRICT", .restrict)]

end DropBehavior

end DdlTree
