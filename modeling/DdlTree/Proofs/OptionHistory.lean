import DdlTree.Render.Node
import Mathlib.Data.Set.Card

/-! # Histories of option bags

What a bag holds after entries have been collected into it and options inserted and taken out. It is
the map in which each key has the value that was written for it last, listed in the order of the
keys. Nothing else is left of the history, so two histories that leave the same map leave the same
bag, and the same text.
-/

namespace DdlTree

namespace Text

/-- The code points of a text. -/
def codePoints (text : String) : List Nat :=
  text.toList.map Char.toNat

theorem codePoints_lt {a b : String} (less : a < b) : codePoints a < codePoints b := by
  have each : ∀ c d : Char, c < d → c.toNat < d.toNat := fun _ _ less => less
  exact List.map_lt each (String.lt_iff.mp less)

/-- The first text with a property, in the order of code points. -/
def IsFirst (property : String → Prop) (text : String) : Prop :=
  property text ∧ ∀ other, property other → other ≠ text → codePoints text < codePoints other

theorem IsFirst.unique {property : String → Prop} {text other : String}
    (first : IsFirst property text) (second : IsFirst property other) : text = other := by
  by_contra apart
  exact List.lt_asymm (first.2 other second.1 (Ne.symm apart)) (second.2 text first.1 apart)

/-- A search in texts that increase finds the first one. -/
theorem find?_eq_some_iff {texts : List String} {wanted : String → Bool} {text : String}
    (increasing : texts.Pairwise fun a b => codePoints a < codePoints b) :
    texts.find? wanted = some text ↔ IsFirst (fun text => text ∈ texts ∧ wanted text) text := by
  have isFirst {text : String} (found : texts.find? wanted = some text) :
      IsFirst (fun text => text ∈ texts ∧ wanted text) text := by
    refine ⟨⟨List.mem_of_find?_eq_some found, List.find?_some found⟩, ?_⟩
    rintro other ⟨mem, isWanted⟩ apart
    obtain ⟨-, before, after, rfl, unwanted⟩ := List.find?_eq_some_iff_append.mp found
    rcases List.mem_append.mp mem with earlier | behind
    · exact absurd isWanted (by simpa using unwanted other earlier)
    · have later := (List.mem_cons.mp behind).resolve_left apart
      exact List.rel_of_pairwise_cons (List.pairwise_append.mp increasing).2.1 later
  refine ⟨isFirst, fun first => ?_⟩
  obtain ⟨found, isFound⟩ := Option.isSome_iff_exists.mp
    (List.find?_isSome.mpr ⟨text, first.1.1, first.1.2⟩)
  rw [isFound, (isFirst isFound).unique first]

end Text

/-- A call that changes a bag. -/
inductive OptionCall where
  | insert (key value : String)
  | erase (key : String)
  deriving Repr, DecidableEq

namespace OptionCall

/-- The key that a call is about. -/
def key : OptionCall → String
  | .insert key _ => key
  | .erase key => key

/-- The value that the key has after a call. -/
def value? : OptionCall → Option String
  | .insert _ value => some value
  | .erase _ => none

/-- What a call yields, and the bag after it. -/
def apply (bag : Options) : OptionCall → Option String × Options
  | .insert key value => bag.insert key value
  | .erase key => bag.erase key

/-- The calls of a history that starts with collected entries. -/
def history (entries : List (String × String)) (calls : List OptionCall) : List OptionCall :=
  entries.map (fun entry => .insert entry.1 entry.2) ++ calls

/-- A history leaves a value at a key: the value was inserted, and no call after that is about the
    key. -/
def Leaves (history : List OptionCall) (key value : String) : Prop :=
  ∃ before after, history = before ++ .insert key value :: after ∧ ∀ later ∈ after, later.key ≠ key

theorem leaves_nil {key value : String} : ¬Leaves [] key value := by
  rintro ⟨before, after, split, -⟩
  simp at split

/-- One more call decides about its key, and about no other. -/
theorem leaves_concat {calls : List OptionCall} {call : OptionCall} {key value : String} :
    Leaves (calls ++ [call]) key value ↔
      if key = call.key then call.value? = some value else Leaves calls key value := by
  constructor
  · rintro ⟨before, after, split, untouched⟩
    rcases after.eq_nil_or_concat with rfl | ⟨others, last, rfl⟩
    · obtain ⟨-, same⟩ := List.append_inj' split rfl
      obtain rfl := List.singleton_inj.mp same
      exact (if_pos rfl).mpr rfl
    · rw [List.concat_eq_append, ← List.cons_append, ← List.append_assoc] at split
      obtain ⟨rfl, same⟩ := List.append_inj' split rfl
      obtain rfl := List.singleton_inj.mp same
      simp only [List.concat_eq_append, List.forall_mem_append, List.forall_mem_singleton]
        at untouched
      rw [if_neg untouched.2.symm]
      exact ⟨before, others, rfl, untouched.1⟩
  · split
    · rename_i same
      intro written
      cases call with
      | insert other value' =>
          obtain rfl := Option.some.inj written
          exact ⟨calls, [], by rw [same, OptionCall.key], nofun⟩
      | erase other => simp [value?] at written
    · rename_i other
      rintro ⟨before, after, rfl, untouched⟩
      refine ⟨before, after ++ [call], by rw [List.append_assoc, List.cons_append], ?_⟩
      rw [List.forall_mem_append, List.forall_mem_singleton]
      exact ⟨untouched, Ne.symm other⟩

end OptionCall

namespace Options

/-- The bag after entries have been collected and calls made one after another. -/
def afterAll (entries : List (String × String)) (calls : List OptionCall) : Options :=
  calls.foldl (fun bag call => (call.apply bag).2) (ofList entries)

/-! ## Values of keys -/

private theorem lookup_cons_ite (key : String) (entry : String × String)
    (rest : List (String × String)) :
    (entry :: rest).lookup key = if key = entry.1 then some entry.2 else rest.lookup key := by
  rw [List.lookup_cons]
  by_cases same : key = entry.1
  · simp [same]
  · simp [same, beq_false_of_ne same]

theorem lookup_insertEntry (key value other : String) (entries : List (String × String)) :
    (insertEntry key value entries).lookup other
      = if other = key then some value else entries.lookup other := by
  induction entries with
  | nil => rw [insertEntry, lookup_cons_ite]
  | cons entry rest ih =>
      rw [insertEntry]
      split
      · rw [lookup_cons_ite]
      · split
        · rename_i replaced
          rw [lookup_cons_ite, lookup_cons_ite, ← replaced]
          split_ifs <;> rfl
        · rename_i distinct
          rw [lookup_cons_ite, lookup_cons_ite, ih]
          split_ifs with isEntry isKey
          · exact absurd (isKey.symm.trans isEntry) distinct
          all_goals rfl

theorem lookup_filter_ne (key other : String) (entries : List (String × String)) :
    (entries.filter fun entry => entry.1 != key).lookup other
      = if other = key then none else entries.lookup other := by
  induction entries with
  | nil => simp
  | cons entry rest ih =>
      rw [List.filter_cons, lookup_cons_ite]
      split
      · rename_i kept
        rw [lookup_cons_ite, ih]
        split_ifs with isEntry isKey
        · simp [← isEntry, isKey] at kept
        all_goals rfl
      · rename_i erased
        obtain rfl : entry.1 = key := by simpa using erased
        rw [ih]
        split_ifs <;> rfl

/-- A call gives its key a new value, and leaves the values of all others. -/
theorem get?_apply (bag : Options) (call : OptionCall) (key : String) :
    (call.apply bag).2.get? key = if key = call.key then call.value? else bag.get? key := by
  cases call with
  | insert changed value => exact lookup_insertEntry changed value key bag.entries
  | erase changed => exact lookup_filter_ne changed key bag.entries

theorem afterAll_eq_foldl (entries : List (String × String)) (calls : List OptionCall) :
    afterAll entries calls
      = (OptionCall.history entries calls).foldl (fun bag call => (call.apply bag).2) empty := by
  rw [OptionCall.history, List.foldl_append, List.foldl_map]
  rfl

/-- After any history a key has the value that the history leaves at it. -/
theorem get?_afterAll (entries : List (String × String)) (calls : List OptionCall)
    (key value : String) :
    (afterAll entries calls).get? key = some value ↔
      OptionCall.Leaves (OptionCall.history entries calls) key value := by
  rw [afterAll_eq_foldl]
  generalize OptionCall.history entries calls = history
  -- the last call is looked at first: it decides about its own key
  induction history using List.reverseRecOn with
  | nil => exact iff_of_false (by simp [get?, empty]) OptionCall.leaves_nil
  | append_singleton calls call ih =>
      rw [List.foldl_append, List.foldl_cons, List.foldl_nil, get?_apply, OptionCall.leaves_concat]
      split
      · rfl
      · exact ih

/-! ## A bag as a map -/

theorem increasing (bag : Options) :
    bag.entries.Pairwise fun a b => Text.codePoints a.1 < Text.codePoints b.1 :=
  bag.sorted.imp Text.codePoints_lt

theorem increasing_keys (bag : Options) :
    bag.keys.Pairwise fun a b => Text.codePoints a < Text.codePoints b :=
  List.pairwise_map.mpr bag.increasing

theorem nodup_keys (bag : Options) : bag.keys.Nodup :=
  bag.increasing_keys.imp fun before same => by
    rw [same] at before
    exact List.lt_irrefl _ before

theorem get?_eq_some {bag : Options} {key value : String} :
    bag.get? key = some value ↔ (key, value) ∈ bag.entries := by
  rw [get?, List.lookup_eq_some_iff]
  constructor
  · rintro ⟨before, after, split, -⟩
    rw [split]
    exact List.mem_append_right _ List.mem_cons_self
  · intro mem
    obtain ⟨before, after, split⟩ := List.append_of_mem mem
    refine ⟨before, after, split, fun entry earlier => ?_⟩
    have distinct := bag.nodup_keys
    rw [keys, split, List.map_append, List.map_cons, List.nodup_middle, List.nodup_cons] at distinct
    refine bne_iff_ne.mpr fun same => distinct.1 (List.mem_append_left _ ?_)
    exact List.mem_map.mpr ⟨entry, earlier, same.symm⟩

/-- The bag is the map that holds the given values, in every question that can be asked of it. -/
structure IsMap (bag : Options) (holds : String → String → Prop) : Prop where
  /-- The entries are listed in strictly increasing order of their keys, by code points. -/
  increasing : bag.entries.Pairwise fun a b => Text.codePoints a.1 < Text.codePoints b.1
  mem_entries : ∀ key value, (key, value) ∈ bag.entries ↔ holds key value
  get? : ∀ key value, bag.get? key = some value ↔ holds key value
  contains : ∀ key, bag.contains key ↔ ∃ value, holds key value
  size : bag.size = {key | ∃ value, holds key value}.ncard
  isEmpty : bag.isEmpty ↔ ∀ key value, ¬holds key value
  /-- A call yields the value that its key has before. -/
  previous : ∀ (call : OptionCall) value,
    (call.apply bag).1 = some value ↔ holds call.key value
  /-- Among the keys that are not bare words the first is reported, if there are any. -/
  invalidKey? : ∀ key, bag.invalidKey? = some key ↔
    Text.IsFirst (fun key => (∃ value, holds key value) ∧ ¬Text.isBareWord key) key
  valid : bag.invalidKey? = none ↔ ∀ key value, holds key value → Text.isBareWord key

theorem mem_keys {bag : Options} {key : String} :
    key ∈ bag.keys ↔ ∃ value, bag.get? key = some value := by
  simp [keys, get?_eq_some]

theorem size_eq_ncard (bag : Options) : bag.size = {key | key ∈ bag.keys}.ncard := by
  rw [← List.coe_toFinset, Set.ncard_coe_finset, List.toFinset_card_of_nodup bag.nodup_keys, keys,
    List.length_map, size]

/-- A bag is the map that looking up its keys gives. -/
theorem isMap_of_get? {bag : Options} {holds : String → String → Prop}
    (get? : ∀ key value, bag.get? key = some value ↔ holds key value) : bag.IsMap holds := by
  have present (key : String) : key ∈ bag.keys ↔ ∃ value, holds key value := by
    simp only [mem_keys, get?]
  refine
    { increasing := bag.increasing
      mem_entries := fun key value => get?_eq_some.symm.trans (get? key value)
      get? := get?
      contains := fun key => ?_
      size := ?_
      isEmpty := ?_
      previous := fun call value => ?_
      invalidKey? := fun key => ?_
      valid := ?_ }
  · rw [contains, Option.isSome_iff_exists]
    simp only [get?]
  · rw [size_eq_ncard]
    simp only [present]
  · rw [isEmpty, List.isEmpty_iff, List.eq_nil_iff_forall_not_mem]
    simp only [Prod.forall, ← get?_eq_some, get?]
  · cases call <;> exact get? _ value
  · rw [invalidKey?, Text.find?_eq_some_iff bag.increasing_keys]
    simp only [present, Bool.not_eq_true', Bool.not_eq_true]
  · rw [invalidKey?, List.find?_eq_none]
    simp only [present, Bool.not_eq_true', Bool.not_eq_false, forall_exists_index]

theorem IsMap.unique {a b : Options} {holds : String → String → Prop} (first : a.IsMap holds)
    (second : b.IsMap holds) : a = b := by
  have nodup (bag : Options) : bag.entries.Nodup := List.Nodup.of_map Prod.fst bag.nodup_keys
  have sameMembers : a.entries.Perm b.entries :=
    (List.perm_ext_iff_of_nodup (nodup a) (nodup b)).mpr fun entry =>
      (first.mem_entries entry.1 entry.2).trans (second.mem_entries entry.1 entry.2).symm
  have sameEntries : a.entries = b.entries :=
    sameMembers.eq_of_pairwise (fun _ _ _ _ before after => absurd after (List.lt_asymm before))
      first.increasing second.increasing
  cases a
  cases b
  simpa using sameEntries

end Options

/-- Option bags are maps in the order of their keys, whatever their history. After any entries have
    been collected and any calls made, a bag answers every question as the map in which each key has
    the value that the history leaves at it; and two histories that leave the same values leave the
    same bag, which is written alike in an index and in a storage format. -/
theorem options_follow_history (entries : List (String × String)) (calls : List OptionCall) :
    let bag := Options.afterAll entries calls
    let history := OptionCall.history entries calls
    bag.IsMap (OptionCall.Leaves history) ∧
      ∀ otherEntries otherCalls,
        (∀ key value, OptionCall.Leaves history key value ↔
          OptionCall.Leaves (OptionCall.history otherEntries otherCalls) key value) →
        let other := Options.afterAll otherEntries otherCalls
        bag = other ∧
          ∀ style : Style,
            (∀ create : CreateIndex, style.createIndex { create with options := bag }
              = style.createIndex { create with options := other }) ∧
            ∀ storage : StorageFormat, style.storageFormat { storage with options := bag }
              = style.storageFormat { storage with options := other } := by
  intro bag history
  have isMap (entries : List (String × String)) (calls : List OptionCall) :
      (Options.afterAll entries calls).IsMap
        (OptionCall.Leaves (OptionCall.history entries calls)) :=
    Options.isMap_of_get? (Options.get?_afterAll entries calls)
  refine ⟨isMap entries calls, ?_⟩
  intro otherEntries otherCalls same other
  have sameMap : other.IsMap (OptionCall.Leaves history) := by
    have leaves : OptionCall.Leaves history
        = OptionCall.Leaves (OptionCall.history otherEntries otherCalls) := by
      funext key value
      exact propext (same key value)
    rw [leaves]
    exact isMap otherEntries otherCalls
  have sameBag : bag = other := (isMap entries calls).unique sameMap
  exact ⟨sameBag, fun style => ⟨fun create => by rw [sameBag], fun storage => by rw [sameBag]⟩⟩

/-- A key that is collected twice and a key that is taken out and put back, against the same values
    inserted one after another into an empty bag. -/
theorem options_follow_history_overwritten :
    let entries := [("b", "1"), ("é", "2"), ("b", "3")]
    let calls : List OptionCall := [.erase "é", .insert "Z" "4", .insert "é" "5"]
    let inserts : List OptionCall := [.insert "é" "5", .insert "b" "3", .insert "Z" "4"]
    let bag := Options.afterAll entries calls
    (∀ key value, OptionCall.Leaves (OptionCall.history entries calls) key value ↔
      OptionCall.Leaves (OptionCall.history [] inserts) key value) ∧
      bag.entries = [("Z", "4"), ("b", "3"), ("é", "5")] ∧
      (bag.insert "b" "6").1 = some "3" ∧
      bag.invalidKey? = some "é" ∧
      bag = Options.afterAll [] inserts := by
  intro entries calls inserts bag
  obtain ⟨isMap, sameBag⟩ := options_follow_history entries calls
  have same : ∀ key value, OptionCall.Leaves (OptionCall.history entries calls) key value ↔
      OptionCall.Leaves (OptionCall.history [] inserts) key value := by
    intro key value
    rw [← Options.get?_afterAll, ← Options.get?_afterAll]
    rfl
  have written : OptionCall.Leaves (OptionCall.history entries calls) "b" "3" :=
    ⟨[.insert "b" "1", .insert "é" "2"], calls, rfl, by decide⟩
  have previous := (isMap.previous (.insert "b" "6") "3").mpr written
  exact ⟨same, rfl, previous, rfl, (sameBag [] inserts same).1⟩

end DdlTree
