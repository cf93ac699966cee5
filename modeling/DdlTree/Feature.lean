/-! # Grammar extensions

The four extensions of the grammar and the sets of them that are enabled. Nothing but an explicit
change ever enables or disables a feature.
-/

namespace DdlTree

/-- A grammar extension. -/
inductive Feature where
  /-- Grouping foreign keys, drops of them, and join types on indexes. -/
  | tableGrouping
  /-- Storage formats of tables and indexes. -/
  | storageFormat
  /-- Deferrable foreign keys. -/
  | deferrableConstraints
  /-- Option bags on indexes. -/
  | indexOptions
  deriving Repr, DecidableEq

namespace Feature

/-- Every feature, in the order in which a set lists them. -/
def all : List Feature :=
  [.tableGrouping, .storageFormat, .deferrableConstraints, .indexOptions]

def name : Feature → String
  | .tableGrouping => "TABLE_GROUPING"
  | .storageFormat => "STORAGE_FORMAT"
  | .deferrableConstraints => "DEFERRABLE_CONSTRAINTS"
  | .indexOptions => "INDEX_OPTIONS"

/-- The feature of a name. Case and blanks count. -/
def ofName? (text : String) : Option Feature :=
  all.find? fun feature => feature.name == text

end Feature

/-- The enabled features. -/
structure FeatureSet where
  tableGrouping : Bool := false
  storageFormat : Bool := false
  deferrableConstraints : Bool := false
  indexOptions : Bool := false
  deriving Repr, DecidableEq

namespace FeatureSet

def empty : FeatureSet := {}

def full : FeatureSet := ⟨true, true, true, true⟩

def contains (set : FeatureSet) : Feature → Bool
  | .tableGrouping => set.tableGrouping
  | .storageFormat => set.storageFormat
  | .deferrableConstraints => set.deferrableConstraints
  | .indexOptions => set.indexOptions

def set (features : FeatureSet) (feature : Feature) (on : Bool) : FeatureSet :=
  match feature with
  | .tableGrouping => { features with tableGrouping := on }
  | .storageFormat => { features with storageFormat := on }
  | .deferrableConstraints => { features with deferrableConstraints := on }
  | .indexOptions => { features with indexOptions := on }

def enable (features : FeatureSet) (feature : Feature) : FeatureSet :=
  features.set feature true

/-- The enabled features, in order. -/
def toList (features : FeatureSet) : List Feature :=
  Feature.all.filter features.contains

/-- The set of the listed features. -/
def ofList (list : List Feature) : FeatureSet :=
  list.foldl enable empty

/-- Setting a feature decides that feature and no other. -/
@[simp] theorem contains_set (features : FeatureSet) (feature other : Feature) (on : Bool) :
    (features.set feature on).contains other = if other = feature then on
      else features.contains other := by
  cases feature <;> cases other <;> rfl

end FeatureSet

end DdlTree
