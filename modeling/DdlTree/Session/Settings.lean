import DdlTree.Session
import DdlTree.Json.Document

/-! # Session settings

The settings of a session as a JSON text: an object with the members `features` and
`max_copy_depth`, or an array that gives the two in this order. Both may be left out, members of
other names are passed over, and a known member may stand only once.
-/

namespace DdlTree

open Json (Document)

/-- Settings that a session can start with. The features stand as they were listed. -/
structure Settings where
  features : List Feature := []
  maxCopyDepth : Option Nat := none
  deriving Repr, DecidableEq

namespace Settings

/-- A feature, written as its name or as an object that maps its name to null. -/
def feature? : Document → Option Feature
  | .string (some name) => Feature.ofName? name
  | .object [(some name, .null)] => Feature.ofName? name
  | _ => none

def features? : Document → Option (List Feature)
  | .array items => items.mapM feature?
  | _ => none

/-- A copy limit: null for none, or a number of 64 bits. -/
def copyDepth? : Document → Option (Option Nat)
  | .null => some none
  | .natural depth => if depth < UInt64.size then some (some depth) else none
  | _ => none

/-- The members of a settings object, read one after another. -/
structure Collected where
  features : Option (List Feature) := none
  maxCopyDepth : Option (Option Nat) := none

/-- Read one member. A name without a text cannot be told from a known one and is refused. -/
def Collected.add? (read : Collected) : Option String × Document → Option Collected
  | (none, _) => none
  | (some "features", value) =>
      if read.features.isSome then none
      else (features? value).map fun features => { read with features := some features }
  | (some "max_copy_depth", value) =>
      if read.maxCopyDepth.isSome then none
      else (copyDepth? value).map fun depth => { read with maxCopyDepth := some depth }
  | (some _, _) => some read

/-- The settings that a JSON value gives. -/
def ofDocument? : Document → Option Settings
  | .object members => do
      let read ← members.foldlM Collected.add? {}
      return ⟨read.features.getD [], read.maxCopyDepth.getD none⟩
  | .array [] => some {}
  | .array [features] => do return ⟨← features? features, none⟩
  | .array [features, depth] => do return ⟨← features? features, ← copyDepth? depth⟩
  | _ => none

/-- The settings that a JSON text gives. -/
def ofText? (text : String) : Option Settings :=
  (Document.ofText? text).bind ofDocument?

end Settings

/-- A session that starts with the given settings. -/
def Session.ofSettings (settings : Settings) : Session :=
  ⟨FeatureSet.ofList settings.features, settings.maxCopyDepth⟩

end DdlTree
