import DdlTree.Change
import DdlTree.Feature.Override

/-! # Changes of feature sets

The calls that change which features are enabled, as steps on the set that they change. A step that
fails leaves the set as it has made it by then.
-/

namespace DdlTree

/-- A step on a feature set. -/
abbrev FeatureM :=
  ChangeM FeatureError FeatureSet

namespace FeatureM

/-- Enable or disable a feature. -/
def setFeature (feature : Feature) (on : Bool) : FeatureM Unit :=
  modify fun features => features.set feature on

/-- Enable or disable the feature of a name. -/
def setNamed (name : String) (on : Bool) : FeatureM Unit := do
  let feature ← MonadExcept.ofExcept (Feature.read name)
  setFeature feature on

/-- Read override lines, and only then make the changes that they ask for, in order. -/
def override (lines : List String) : FeatureM Unit := do
  let changes ← MonadExcept.ofExcept (FeatureSet.Override.readAll lines)
  changes.forM fun change => setFeature change.feature change.on

end FeatureM

/-- A change to the features of a session. -/
inductive FeatureChange where
  | set (feature : Feature) (on : Bool)
  /-- Enable or disable the feature of a name. -/
  | setNamed (name : String) (on : Bool)
  | override (lines : List String)
  | replace (features : FeatureSet)
  | reset
  deriving Repr, DecidableEq

namespace FeatureChange

/-- The step that makes a change. -/
def step : FeatureChange → FeatureM Unit
  | .set feature on => FeatureM.setFeature feature on
  | .setNamed name on => FeatureM.setNamed name on
  | .override lines => FeatureM.override lines
  | .replace features => MonadStateOf.set features
  | .reset => MonadStateOf.set FeatureSet.empty

end FeatureChange

end DdlTree
