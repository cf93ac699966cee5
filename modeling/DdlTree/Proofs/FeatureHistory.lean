import DdlTree.Feature.Change
import DdlTree.Proofs.Outcome

/-! # Histories of feature sets

What a feature set holds after any changes, some of which may have failed. A change that fails does
nothing. All others come down to commands that enable or disable one feature or all of them, and for
each feature the last command that mentions it counts.
-/

namespace DdlTree

/-! ## Commands -/

/-- What takes effect on a feature set. -/
inductive FeatureCommand where
  | set (feature : Feature) (on : Bool)
  | replace (features : FeatureSet)

namespace FeatureCommand

/-- Whether a command enables or disables a feature, if it mentions the feature. -/
def mention : FeatureCommand → Feature → Option Bool
  | .set feature on, other => if other = feature then some on else none
  | .replace features, other => some (features.contains other)

def apply (features : FeatureSet) : FeatureCommand → FeatureSet
  | .set feature on => features.set feature on
  | .replace replacement => replacement

theorem contains_apply (features : FeatureSet) (command : FeatureCommand) (feature : Feature) :
    (command.apply features).contains feature
      = (command.mention feature).getD (features.contains feature) := by
  cases command with
  | set changed on =>
      rw [apply, FeatureSet.contains_set, mention]
      split <;> rfl
  | replace replacement => rfl

/-- After some commands the last one that mentions a feature decides about it. -/
theorem contains_foldl (commands : List FeatureCommand) (start : FeatureSet) (feature : Feature) :
    (commands.foldl apply start).contains feature
      = (commands.reverse.findSome? (·.mention feature)).getD (start.contains feature) := by
  induction commands generalizing start with
  | nil => rfl
  | cons command rest ih =>
      rw [List.foldl_cons, ih, contains_apply, List.reverse_cons, List.findSome?_append,
        List.findSome?_singleton]
      cases rest.reverse.findSome? (·.mention feature) <;> rfl

/-- The last command that mentions a feature, with nothing that mentions it after it. -/
theorem findSome?_reverse_eq_some {commands : List FeatureCommand} {feature : Feature} {on : Bool} :
    commands.reverse.findSome? (·.mention feature) = some on ↔
      ∃ before command after, commands = before ++ command :: after ∧
        command.mention feature = some on ∧ ∀ later ∈ after, later.mention feature = none := by
  rw [List.findSome?_eq_some_iff]
  constructor
  · rintro ⟨after, command, before, split, decides, silent⟩
    refine ⟨before.reverse, command, after.reverse, ?_, decides, by simpa using silent⟩
    rw [← List.reverse_reverse commands, split]
    simp
  · rintro ⟨before, command, after, rfl, decides, silent⟩
    exact ⟨after.reverse, command, before.reverse, by simp, decides, by simpa using silent⟩

/-- A set of features after commands, feature by feature. -/
theorem contains_foldl_iff {commands : List FeatureCommand} {start : FeatureSet}
    {feature : Feature} :
    (commands.foldl apply start).contains feature ↔
      (∃ before command after, commands = before ++ command :: after ∧
        command.mention feature = some true ∧ ∀ later ∈ after, later.mention feature = none) ∨
      ((∀ command ∈ commands, command.mention feature = none) ∧ start.contains feature) := by
  rw [contains_foldl, ← findSome?_reverse_eq_some]
  cases last : commands.reverse.findSome? (·.mention feature) with
  | none =>
      rw [List.findSome?_eq_none_iff] at last
      have silent : ∀ command ∈ commands, command.mention feature = none := by simpa using last
      constructor
      · intro contained
        exact .inr ⟨silent, contained⟩
      · rintro (enabled | ⟨-, contained⟩)
        · cases enabled
        · exact contained
  | some on =>
      obtain ⟨before, command, after, rfl, decides, -⟩ := findSome?_reverse_eq_some.mp last
      constructor
      · intro enabled
        exact .inl (congrArg some enabled)
      · rintro (enabled | ⟨silent, -⟩)
        · exact Option.some.inj enabled
        · rw [silent command (by simp)] at decides
          cases decides

end FeatureCommand

/-! ## Override lines -/

namespace FeatureSet.Override

def sign (on : Bool) : String :=
  if on then "+" else "-"

/-- An override as it is written: its sign and then the name of its feature. -/
def text (change : Override) : String :=
  sign change.on ++ change.feature.name

def all : List Override :=
  Feature.all.flatMap fun feature => [⟨true, feature⟩, ⟨false, feature⟩]

/-- The override that a line is, apart from blanks around it. -/
def ofLine? (line : String) : Option Override :=
  all.find? fun change => change.text == Text.trim line

/-- Whether a line is blank or an override, apart from blanks around it. -/
def Readable (line : String) : Prop :=
  Text.trim line = "" ∨ ∃ change : Override, Text.trim line = change.text

/-- How a line is refused that is neither blank nor an override: for the name behind its sign, or as
    a whole if it has no sign. -/
inductive Refused (line : String) : FeatureError → Prop where
  | unknown {on : Bool} {name : String} (signed : Text.trim line = sign on ++ name)
    (unknown : ∀ feature : Feature, feature.name ≠ name) : Refused line (.unknown name)
  | unsigned (nonblank : Text.trim line ≠ "")
    (unsigned : ∀ on name, Text.trim line ≠ sign on ++ name) :
    Refused line (.unsigned (Text.trim line))

theorem ofLine?_eq_some {line : String} {change : Override} :
    ofLine? line = some change ↔ Text.trim line = change.text := by
  constructor
  · intro found
    have isText := List.find?_some (p := fun change : Override => change.text == Text.trim line)
      found
    exact (beq_iff_eq.mp isText).symm
  · intro same
    obtain ⟨on, feature⟩ := change
    rw [ofLine?, same]
    cases on <;> cases feature <;> rfl

theorem ofLine?_of_blank {line : String} (blank : Text.trim line = "") : ofLine? line = none := by
  rw [ofLine?, blank]
  rfl

instance (line : String) : Decidable (Readable line) :=
  decidable_of_iff (Text.trim line = "" ∨ (ofLine? line).isSome) <|
    or_congr_right <| by simp only [Option.isSome_iff_exists, ofLine?_eq_some]

end FeatureSet.Override

theorem Feature.read_eq_ok {name : String} {feature : Feature} :
    Feature.read name = .ok feature ↔ feature.name = name := by
  constructor
  · intro read
    rw [Feature.read] at read
    split at read
    · rename_i found isFound
      obtain rfl := Except.ok.inj read
      have isName := List.find?_some (p := fun feature : Feature => feature.name == name) isFound
      exact beq_iff_eq.mp isName
    · cases read
  · rintro rfl
    cases feature <;> rfl

theorem Feature.read_of_unknown {name : String}
    (unknown : ∀ feature : Feature, feature.name ≠ name) :
    Feature.read name = .error (.unknown name) := by
  rw [Feature.read]
  split
  · rename_i found isFound
    have isName := List.find?_some (p := fun feature : Feature => feature.name == name) isFound
    exact absurd (beq_iff_eq.mp isName) (unknown found)
  · rfl

namespace FeatureSet.Override

theorem read_blank {line : String} (blank : Text.trim line = "") : read line = .ok none := by
  rw [read, blank]
  rfl

theorem read_signed {line name : String} {on : Bool} (signed : Text.trim line = sign on ++ name) :
    read line = (Feature.read name).map fun feature => some ⟨on, feature⟩ := by
  rw [read, signed]
  cases on <;> simp [sign]

theorem read_unsigned {line : String} (nonblank : Text.trim line ≠ "")
    (unsigned : ∀ on name, Text.trim line ≠ sign on ++ name) :
    read line = .error (.unsigned (Text.trim line)) := by
  rw [read]
  split
  · rename_i blank
    exact absurd (String.toList_inj.mp blank) nonblank
  · rename_i name plus
    exact absurd (String.toList_inj.mp (by simpa [sign] using plus))
      (unsigned true (String.ofList name))
  · rename_i name minus
    exact absurd (String.toList_inj.mp (by simpa [sign] using minus))
      (unsigned false (String.ofList name))
  · rfl

theorem read_of_readable {line : String} (readable : Readable line) :
    read line = .ok (ofLine? line) := by
  rcases readable with blank | ⟨change, isText⟩
  · rw [read_blank blank, ofLine?_of_blank blank]
  · rw [read_signed isText, Feature.read_eq_ok.mpr rfl, ofLine?_eq_some.mpr isText, map_ok]

theorem Refused.read {line : String} {error : FeatureError} (refused : Refused line error) :
    Override.read line = .error error := by
  cases refused with
  | unknown signed unknown => rw [read_signed signed, Feature.read_of_unknown unknown, map_error]
  | unsigned nonblank unsigned => exact read_unsigned nonblank unsigned

theorem exists_refused {line : String} (unreadable : ¬Readable line) :
    ∃ error, Refused line error := by
  by_cases signed : ∃ on name, Text.trim line = sign on ++ name
  · obtain ⟨on, name, signed⟩ := signed
    refine ⟨_, .unknown signed fun feature isName => unreadable (.inr ⟨⟨on, feature⟩, ?_⟩)⟩
    rw [signed, text, isName]
  · have unsigned : ∀ on name, Text.trim line ≠ sign on ++ name :=
      fun on name isSigned => signed ⟨on, name, isSigned⟩
    exact ⟨_, .unsigned (fun blank => unreadable (.inl blank)) unsigned⟩

/-- All lines are read if each of them can be. -/
theorem readAll_of_readable {lines : List String} (readable : ∀ line ∈ lines, Readable line) :
    readAll lines = .ok (lines.filterMap ofLine?) := by
  induction lines with
  | nil => rfl
  | cons line rest ih =>
      rw [List.forall_mem_cons] at readable
      rw [readAll, read_of_readable readable.1, ih readable.2, ok_bind, ok_bind,
        List.filterMap_cons]
      cases ofLine? line <;> rfl

/-- Lines are refused for the first one that cannot be read. -/
theorem readAll_of_refused {before after : List String} {line : String} {error : FeatureError}
    (readable : ∀ earlier ∈ before, Readable earlier) (refused : Refused line error) :
    readAll (before ++ line :: after) = .error error := by
  induction before with
  | nil =>
      rw [List.nil_append, readAll, refused.read]
      rfl
  | cons earlier rest ih =>
      rw [List.forall_mem_cons] at readable
      rw [List.cons_append, readAll, read_of_readable readable.1, ih readable.2]
      rfl

/-- If not all lines can be read, there is a first one that cannot. -/
theorem exists_first_refused {lines : List String} (unreadable : ¬∀ line ∈ lines, Readable line) :
    ∃ before line after error, lines = before ++ line :: after ∧
      (∀ earlier ∈ before, Readable earlier) ∧ Refused line error := by
  have found : (lines.find? fun line => !decide (Readable line)).isSome := by
    simpa using unreadable
  -- the search stops at the first line that cannot be read, and tells what comes before it
  obtain ⟨line, isFirst⟩ := Option.isSome_iff_exists.mp found
  obtain ⟨bad, before, after, split, earlier⟩ := List.find?_eq_some_iff_append.mp isFirst
  have isUnreadable : ¬Readable line := by simpa using bad
  obtain ⟨error, refused⟩ := exists_refused isUnreadable
  exact ⟨before, line, after, error, split, by simpa using earlier, refused⟩

end FeatureSet.Override

/-! ## Changes -/

theorem FeatureM.run_forM_setFeature (changes : List FeatureSet.Override) (features : FeatureSet) :
    (changes.forM fun change => setFeature change.feature change.on).run features
      = .ok () (changes.foldl (fun features change => features.set change.feature change.on)
          features) := by
  induction changes generalizing features with
  | nil => rfl
  | cons change rest ih => exact ih (features.set change.feature change.on)

namespace FeatureChange

open FeatureSet (Override)

theorem override_run_of_readable {lines : List String}
    (readable : ∀ line ∈ lines, Override.Readable line) (features : FeatureSet) :
    (override lines).step.run features = .ok ()
      ((lines.filterMap Override.ofLine?).foldl
        (fun features change => features.set change.feature change.on) features) := by
  rw [step, FeatureM.override, Override.readAll_of_readable readable]
  exact FeatureM.run_forM_setFeature _ features

/-- Lines are refused before any of them has been carried out. -/
theorem override_run_of_refused {before after : List String} {line : String} {error : FeatureError}
    (readable : ∀ earlier ∈ before, Override.Readable earlier)
    (refused : Override.Refused line error) (features : FeatureSet) :
    (override (before ++ line :: after)).step.run features = .error error features := by
  rw [step, FeatureM.override, Override.readAll_of_refused readable refused]
  rfl

theorem allOrNothing_step (change : FeatureChange) : change.step.AllOrNothing := by
  intro features error after failed
  cases change with
  | setNamed name on =>
      simp only [step, FeatureM.setNamed] at failed
      cases read : Feature.read name <;> rw [read] at failed <;> cases failed
      rfl
  | override lines =>
      by_cases readable : ∀ line ∈ lines, Override.Readable line
      · rw [override_run_of_readable readable] at failed
        cases failed
      · obtain ⟨before, line, later, found, rfl, earlier, refused⟩ :=
          Override.exists_first_refused readable
        rw [override_run_of_refused earlier refused] at failed
        cases failed
        rfl
  | set | replace | reset => cases failed

/-- The commands that a change comes down to. A change that fails comes down to none. -/
def commands : FeatureChange → List FeatureCommand
  | .set feature on => [.set feature on]
  | .setNamed name on => (Feature.ofName? name).toList.map (.set · on)
  | .override lines =>
      if ∀ line ∈ lines, Override.Readable line then
        (lines.filterMap Override.ofLine?).map fun change => .set change.feature change.on
      else []
  | .replace features => [.replace features]
  | .reset => [.replace .empty]

/-- A change does what its commands do one after another. -/
theorem left_step (change : FeatureChange) (features : FeatureSet) :
    change.step.left features = change.commands.foldl FeatureCommand.apply features := by
  cases change with
  | setNamed name on =>
      rw [ChangeM.left, step, FeatureM.setNamed, commands, Feature.read]
      cases Feature.ofName? name <;> rfl
  | override lines =>
      rw [ChangeM.left, commands]
      split_ifs with readable
      · rw [override_run_of_readable readable, List.foldl_map]
        rfl
      · obtain ⟨before, line, later, error, rfl, earlier, refused⟩ :=
          Override.exists_first_refused readable
        rw [override_run_of_refused earlier refused]
        rfl
  | set | replace | reset => rfl

/-- The features after changes that are tried one after another. -/
def afterAll (changes : List FeatureChange) (start : FeatureSet) : FeatureSet :=
  changes.foldl (fun features change => change.step.left features) start

theorem afterAll_eq_foldl (changes : List FeatureChange) (start : FeatureSet) :
    afterAll changes start = (changes.flatMap commands).foldl FeatureCommand.apply start := by
  rw [afterAll, List.foldl_flatMap]
  simp only [left_step]

theorem override_run_eq_ok {lines : List String} {features : FeatureSet} :
    (∃ changed, (override lines).step.run features = .ok () changed) ↔
      ∀ line ∈ lines, Override.Readable line := by
  by_cases readable : ∀ line ∈ lines, Override.Readable line
  · exact iff_of_true ⟨_, override_run_of_readable readable features⟩ readable
  · obtain ⟨before, line, after, error, rfl, earlier, refused⟩ :=
      Override.exists_first_refused readable
    rw [override_run_of_refused earlier refused]
    refine iff_of_false ?_ readable
    rintro ⟨changed, ⟨⟩⟩

theorem override_run_eq_error {lines : List String} {features changed : FeatureSet}
    {error : FeatureError} :
    (override lines).step.run features = .error error changed ↔
      changed = features ∧ ∃ before line after, lines = before ++ line :: after ∧
        (∀ earlier ∈ before, Override.Readable earlier) ∧ Override.Refused line error := by
  constructor
  · intro failed
    by_cases readable : ∀ line ∈ lines, Override.Readable line
    · rw [override_run_of_readable readable] at failed
      cases failed
    · obtain ⟨before, line, after, found, rfl, earlier, refused⟩ :=
        Override.exists_first_refused readable
      rw [override_run_of_refused earlier refused] at failed
      cases failed
      exact ⟨rfl, before, line, after, rfl, earlier, refused⟩
  · rintro ⟨rfl, before, line, after, rfl, earlier, refused⟩
    exact override_run_of_refused earlier refused _

end FeatureChange

/-- Feature sets follow the last command. A change that fails leaves the set as it was. After any
    changes, a feature is enabled exactly if the last command that mentions it enables it, or none
    mentions it and it was enabled at the start; the commands are those of the changes that did not
    fail, in order, and each override line is one. Override lines are accepted exactly if each is
    blank or a sign and the name of a feature, blanks around it aside; otherwise the error is that
    of the first line that is neither. -/
theorem features_follow_last_command :
    (∀ (change : FeatureChange) features error after,
      change.step.run features = .error error after → after = features) ∧
    (∀ changes start feature, (FeatureChange.afterAll changes start).contains feature ↔
      (∃ before command after,
        changes.flatMap FeatureChange.commands = before ++ command :: after ∧
          command.mention feature = some true ∧ ∀ later ∈ after, later.mention feature = none) ∨
      ((∀ command ∈ changes.flatMap FeatureChange.commands, command.mention feature = none) ∧
        start.contains feature)) ∧
    (∀ lines features,
      (∃ changed, (FeatureChange.override lines).step.run features = .ok () changed) ↔
        ∀ line ∈ lines, FeatureSet.Override.Readable line) ∧
    ∀ lines features error,
      (∃ changed, (FeatureChange.override lines).step.run features = .error error changed) ↔
        ∃ before line after, lines = before ++ line :: after ∧
          (∀ earlier ∈ before, FeatureSet.Override.Readable earlier) ∧
          FeatureSet.Override.Refused line error := by
  refine ⟨fun change features error after failed => ?_, fun changes start feature => ?_,
    fun lines features => ?_, fun lines features error => ?_⟩
  · exact change.allOrNothing_step features error after failed
  · rw [FeatureChange.afterAll_eq_foldl]
    exact FeatureCommand.contains_foldl_iff
  · exact FeatureChange.override_run_eq_ok
  · simp only [FeatureChange.override_run_eq_error, exists_eq_left]

end DdlTree
