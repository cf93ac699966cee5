import DdlTree.Feature
import DdlTree.Text

/-! # Override lines

Lines such as `+NAME` and `-NAME` each ask for one change to a feature set. All lines are read
together, and one bad line is enough to refuse them.
-/

namespace DdlTree

/-- Why the name or the override line of a feature was refused. -/
inductive FeatureError where
  /-- No feature has this name. -/
  | unknown (name : String)
  /-- An override line, trimmed, that starts with neither sign. -/
  | unsigned (line : String)
  deriving Repr, DecidableEq

/-- The report of a refused name or line. -/
def FeatureError.message : FeatureError → String
  | .unknown name => s!"Unknown feature: {name}"
  | .unsigned line => s!"Malformed feature override line, should start with + or -: {line}"

/-- The feature of a name, or the report that there is none. -/
def Feature.read (name : String) : Except FeatureError Feature :=
  match Feature.ofName? name with
  | some feature => .ok feature
  | none => .error (.unknown name)

namespace FeatureSet

/-- One change to a feature set. -/
structure Override where
  on : Bool
  feature : Feature
  deriving Repr, DecidableEq

/-- Read one line. A blank line asks for nothing, and the name follows its sign at once. -/
def Override.read (line : String) : Except FeatureError (Option Override) :=
  match (Text.trim line).toList with
  | [] => .ok none
  | '+' :: name => (Feature.read (String.ofList name)).map fun feature => some ⟨true, feature⟩
  | '-' :: name => (Feature.read (String.ofList name)).map fun feature => some ⟨false, feature⟩
  | _ => .error (.unsigned (Text.trim line))

/-- Read all lines in order; the first bad line is reported. -/
def Override.readAll : List String → Except FeatureError (List Override)
  | [] => .ok []
  | line :: rest => do
      let first ← Override.read line
      let others ← Override.readAll rest
      return first.toList ++ others

end FeatureSet

end DdlTree
