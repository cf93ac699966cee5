import DdlTree.Error

/-! # Sessions

A session carries the enabled features and the copy limit. Sessions are independent of each other.
-/

namespace DdlTree

/-- The settings under which nodes are built and copied. -/
structure Session where
  features : FeatureSet := {}
  /-- How many nodes deep a copy may go; `none` for no limit. -/
  maxCopyDepth : Option Nat := none
  deriving Repr, DecidableEq

namespace Session

/-- Refuse unless a feature is enabled. -/
def require (session : Session) (feature : Feature) : Except BuildError Unit :=
  if session.features.contains feature then .ok () else .error (.disabled feature)

/-- Refuse when `used` holds and the feature is not enabled. -/
def requireWhen (session : Session) (used : Bool) (feature : Feature) : Except BuildError Unit :=
  if used then session.require feature else .ok ()

end Session

end DdlTree
