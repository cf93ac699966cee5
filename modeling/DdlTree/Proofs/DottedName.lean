import DdlTree.Proofs.Acceptance
import DdlTree.Proofs.UserText
import Mathlib.Data.List.TakeWhile

/-! # Dotted names

When a dotted name is read, and which name is read from it. A text without a dot is a name, and one
with a single dot is a schema and a name; reading undoes showing for names whose parts are regular
and have no dots.
-/

namespace DdlTree

namespace TableName

/-! ## One part or two -/

theorem parse_of_noDot {text : String} (noDot : '.' ∉ text.toList) :
    parse text = build none (.regular text) := by
  have all : text.toList.dropWhile (· != '.') = [] :=
    List.dropWhile_eq_nil_iff.mpr fun c mem => bne_iff_ne.mpr fun dot => noDot (dot ▸ mem)
  rw [parse, all]

theorem toList_dotted (schema name : String) :
    (schema ++ "." ++ name).toList = schema.toList ++ '.' :: name.toList := by
  simp

theorem parse_dotted {schema name : String} (noDot : '.' ∉ schema.toList) :
    parse (schema ++ "." ++ name) =
      if name.toList.contains '.' then
        .error (.malformed .tableName (.tooManyQualifiers (schema ++ "." ++ name)))
      else build (some (.regular schema)) (.regular name) := by
  have before : ∀ c ∈ schema.toList, (c != '.') = true :=
    fun c mem => bne_iff_ne.mpr fun dot => noDot (dot ▸ mem)
  have behind :
      (schema.toList ++ '.' :: name.toList).dropWhile (· != '.') = '.' :: name.toList := by
    rw [List.dropWhile_append_of_pos before]
    simp
  have ahead : (schema.toList ++ '.' :: name.toList).takeWhile (· != '.') = schema.toList := by
    rw [List.takeWhile_append_of_pos before]
    simp
  simp only [parse, toList_dotted, behind, ahead, String.ofList_toList]

/-- A text with a dot is cut at its first dot. -/
theorem exists_dotted {text : String} (dot : '.' ∈ text.toList) :
    ∃ schema name : String, text = schema ++ "." ++ name ∧ '.' ∉ schema.toList := by
  obtain ⟨before, after, split, noDot⟩ := List.eq_append_cons_of_mem dot
  refine ⟨String.ofList before, String.ofList after, ?_, by simpa using noDot⟩
  rw [← String.toList_inj]
  simp [split]

/-! ## Reading -/

theorem isEmpty_regular {text : String} :
    (Identifier.regular text).isEmpty = false ↔ text.toList ≠ [] := by
  simp [Identifier.regular, Identifier.isEmpty]

theorem isOk_build {schema : Option Identifier} {name : Identifier} :
    (build schema name).isOk ↔ name.isEmpty = false ∧ ∀ part ∈ schema, part.isEmpty = false := by
  simp only [isOk_iff_exists, build_eq_ok]
  constructor
  · rintro ⟨table, rules, rfl⟩
    exact ⟨rules.named, rules.schemaNamed⟩
  · rintro ⟨named, schemaNamed⟩
    exact ⟨_, ⟨named, schemaNamed⟩, rfl⟩

/-- A text is read if it has at most one dot and no part around it is empty. -/
theorem isOk_parse {text : String} :
    (parse text).isOk ↔
      text.toList.count '.' ≤ 1 ∧ ∀ part ∈ text.toList.splitOn '.', part ≠ [] := by
  by_cases dot : '.' ∈ text.toList
  · obtain ⟨schema, name, rfl, noDot⟩ := exists_dotted dot
    have count : (schema.toList ++ '.' :: name.toList).count '.' = name.toList.count '.' + 1 := by
      rw [List.count_append, List.count_eq_zero.mpr noDot, List.count_cons_self, Nat.zero_add]
    rw [parse_dotted noDot, toList_dotted, count, List.splitOn_append_cons_self_of_not_mem noDot]
    by_cases further : '.' ∈ name.toList
    · have many := List.count_pos_iff.mpr further
      rw [if_pos (List.contains_iff_mem.mpr further), isOk_error]
      exact iff_of_false Bool.false_ne_true fun ⟨few, _⟩ => by omega
    · rw [if_neg (mt List.contains_iff_mem.mp further), isOk_build, isEmpty_regular,
        List.count_eq_zero.mpr further, List.splitOn_eq_singleton further]
      simp [isEmpty_regular, and_comm]
  · rw [parse_of_noDot dot, isOk_build, isEmpty_regular, List.count_eq_zero.mpr dot,
      List.splitOn_eq_singleton dot]
    simp

/-- What is read is shown as it was written, and has a schema if there was a dot. -/
theorem shown_of_parse {text : String} {table : TableName} (read : parse text = .ok table) :
    table.text = text ∧ (∀ part ∈ table.identifiers, part.quoted = false) ∧
      (table.isQualified ↔ '.' ∈ text.toList) := by
  by_cases dot : '.' ∈ text.toList
  · obtain ⟨schema, name, rfl, noDot⟩ := exists_dotted dot
    rw [parse_dotted noDot] at read
    obtain ⟨-, built⟩ := refuse_eq_ok.mp read
    obtain ⟨-, rfl⟩ := build_eq_ok.mp built
    exact ⟨rfl, by simp [identifiers, Identifier.regular], iff_of_true rfl dot⟩
  · rw [parse_of_noDot dot] at read
    obtain ⟨-, rfl⟩ := build_eq_ok.mp read
    exact ⟨rfl, by simp [identifiers, Identifier.regular], iff_of_false nofun dot⟩

/-- A name of parts without dots is read from the text that it is shown as. -/
theorem parse_text {table : TableName}
    (dotted : ∀ part ∈ table.identifiers,
      part.quoted = false ∧ part.isEmpty = false ∧ '.' ∉ part.name.toList) :
    parse table.text = .ok { table with span := {} } := by
  obtain ⟨schema?, ⟨name, quoted⟩, span⟩ := table
  obtain ⟨regular, named, noDot⟩ := dotted ⟨name, quoted⟩ (by simp [identifiers])
  obtain rfl : quoted = false := regular
  cases schema? with
  | none => exact (parse_of_noDot noDot).trans (build_eq_ok.mpr ⟨⟨named, nofun⟩, rfl⟩)
  | some schema =>
      obtain ⟨schema, quoted⟩ := schema
      obtain ⟨regular, schemaNamed, schemaNoDot⟩ := dotted ⟨schema, quoted⟩ (by simp [identifiers])
      obtain rfl : quoted = false := regular
      have noFurther : ¬name.toList.contains '.' := mt List.contains_iff_mem.mp noDot
      have rules : ∀ part ∈ some (Identifier.regular schema), part.isEmpty = false :=
        fun part mem => Option.some.inj mem ▸ schemaNamed
      exact (parse_dotted schemaNoDot).trans
        ((if_neg noFurther).trans (build_eq_ok.mpr ⟨⟨named, rules⟩, rfl⟩))

end TableName

/-- Dotted names are read exactly. A text is read if it has at most one dot and no part around it is
    empty; what is read is shown as the text again, has regular parts, and has a schema exactly if
    the text has a dot. The other way around, a name whose parts are regular, not empty and without
    dots is shown as a text from which the same name is read. -/
theorem dotted_names_exact :
    (∀ text : String,
      ((TableName.parse text).isOk ↔
        text.toList.count '.' ≤ 1 ∧ ∀ part ∈ text.toList.splitOn '.', part ≠ []) ∧
      ∀ table, TableName.parse text = .ok table →
        table.text = text ∧ (∀ part ∈ table.identifiers, part.quoted = false) ∧
          (table.isQualified ↔ '.' ∈ text.toList)) ∧
    ∀ table : TableName,
      (∀ part ∈ table.identifiers,
        part.quoted = false ∧ part.isEmpty = false ∧ '.' ∉ part.name.toList) →
      ∃ read, TableName.parse table.text = .ok read ∧ read.sameObject table := by
  refine ⟨fun text => ⟨TableName.isOk_parse, fun table => TableName.shown_of_parse⟩, ?_⟩
  intro table dotted
  exact ⟨_, TableName.parse_text dotted, by simp [TableName.sameObject]⟩

/-- A name with a schema, written with letters outside of ASCII, and texts with a dot too many. -/
theorem dotted_names_exact_schema :
    let table : TableName :=
      { schema := some (.regular "größe"), name := .regular "t1", span := ⟨3, 9⟩ }
    (∃ read, TableName.parse table.text = .ok read ∧ read.sameObject table) ∧
      TableName.parse "größe.t1" = .ok { table with span := {} } ∧
      ({ table with span := {} } : TableName).text = "größe.t1" ∧
      ¬(TableName.parse "a.b.c").isOk ∧ ¬(TableName.parse "a.").isOk := by
  intro table
  obtain ⟨reads, undoes⟩ := dotted_names_exact
  have dotted : ∀ part ∈ table.identifiers,
      part.quoted = false ∧ part.isEmpty = false ∧ '.' ∉ part.name.toList := by
    simp [TableName.identifiers, table, Identifier.regular, Identifier.isEmpty]
  have read : TableName.parse "größe.t1" = .ok { table with span := {} } :=
    TableName.parse_text dotted
  refine ⟨undoes table dotted, read, ((reads "größe.t1").2 _ read).1, ?_, ?_⟩
  · exact fun accepted => absurd ((reads "a.b.c").1.mp accepted).1 (by decide)
  · exact fun accepted => absurd ((reads "a.").1.mp accepted).2 (by decide)

end DdlTree
