import DdlTree.Text

/-! # Option bags

Vendor options as a map from keys to values, listed in the order of their keys. A bag may hold any
key; nodes are built only from bags whose keys are bare words.
-/

namespace DdlTree

/-- Options in the order of their keys, each key once. -/
structure Options where
  entries : List (String × String)
  sorted : entries.Pairwise fun a b => a.1 < b.1
  deriving Repr, DecidableEq

namespace Options

/-- The bag without options. -/
def empty : Options := ⟨[], .nil⟩

def keys (bag : Options) : List String :=
  bag.entries.map Prod.fst

def size (bag : Options) : Nat :=
  bag.entries.length

def isEmpty (bag : Options) : Bool :=
  bag.entries.isEmpty

def get? (bag : Options) (key : String) : Option String :=
  bag.entries.lookup key

def contains (bag : Options) (key : String) : Bool :=
  (bag.get? key).isSome

/-- Put an entry at the place of its key, over an entry with the same key. -/
def insertEntry (key value : String) : List (String × String) → List (String × String)
  | [] => [(key, value)]
  | entry :: rest =>
      if key < entry.1 then (key, value) :: entry :: rest
      else if key = entry.1 then (key, value) :: rest
      else entry :: insertEntry key value rest

theorem mem_insertEntry {key value : String} {entries : List (String × String)}
    {entry : String × String} (h : entry ∈ insertEntry key value entries) :
    entry = (key, value) ∨ entry ∈ entries := by
  induction entries with
  | nil => simpa [insertEntry] using h
  | cons head rest ih =>
    simp only [insertEntry] at h
    split at h
    · simpa using h
    · split at h
      · rcases List.mem_cons.mp h with h | h
        · exact .inl h
        · exact .inr (.tail _ h)
      · rcases List.mem_cons.mp h with h | h
        · exact .inr (h ▸ .head _)
        · exact (ih h).imp_right (.tail _)

theorem sorted_insertEntry (key value : String) {entries : List (String × String)}
    (sorted : entries.Pairwise fun a b => a.1 < b.1) :
    (insertEntry key value entries).Pairwise fun a b => a.1 < b.1 := by
  induction entries with
  | nil => simp [insertEntry]
  | cons head rest ih =>
    obtain ⟨below, sortedRest⟩ := List.pairwise_cons.mp sorted
    simp only [insertEntry]
    split
    · rename_i before
      refine List.pairwise_cons.mpr ⟨fun entry mem => ?_, sorted⟩
      rcases List.mem_cons.mp mem with rfl | mem
      · exact before
      · exact String.lt_trans before (below entry mem)
    · split
      · rename_i same
        exact List.pairwise_cons.mpr ⟨fun entry mem => same ▸ below entry mem, sortedRest⟩
      · rename_i notBefore notSame
        refine List.pairwise_cons.mpr ⟨fun entry mem => ?_, ih sortedRest⟩
        rcases mem_insertEntry mem with rfl | mem
        · exact Decidable.byContradiction fun notAfter =>
            notSame (String.le_antisymm (String.not_lt.mp notAfter) (String.not_lt.mp notBefore))
        · exact below entry mem

/-- Give a key a value. Also yields the value that the key had before. -/
def insert (bag : Options) (key value : String) : Option String × Options :=
  (bag.get? key, ⟨insertEntry key value bag.entries, sorted_insertEntry key value bag.sorted⟩)

/-- Take a key out. Also yields the value that the key had. -/
def erase (bag : Options) (key : String) : Option String × Options :=
  (bag.get? key, ⟨bag.entries.filter fun entry => entry.1 != key, bag.sorted.filter _⟩)

/-- Collect entries one after another; of two values for one key the later one stays. -/
def ofList (entries : List (String × String)) : Options :=
  entries.foldl (fun bag entry => (bag.insert entry.1 entry.2).2) empty

/-- The first key that is not a bare word. -/
def invalidKey? (bag : Options) : Option String :=
  bag.keys.find? fun key => !Text.isBareWord key

end Options

end DdlTree
