import WarehouseAdmin.Proofs.Statement.Acceptance
import WarehouseAdmin.Proofs.Statement.Writing

/-!
# What an alteration does

An `ALTER DATABASE` statement has a field for each of the four things that it can do, and the check
lets through the statements in which one of them is set.  The check and the writer look at these
fields in different ways: a list counts when it is not empty, an inner record counts whatever it
holds, and the text of either could be empty all the same.  `AlterDatabase.actions` is what both of
them mean: the text of a statement is its actions, and an accepted statement has one.

## Main statements

* `AlterDatabase.accepted_does_one_thing` — an accepted statement does one thing, and says so
  completely.
-/

namespace WarehouseAdmin

open Described Layout.Field

/-! ## Properties that are set -/

/-- The properties in the order in which they are declared. -/
def DatabaseProperty.declared : List DatabaseProperty :=
  [.dataRetention, .maxDataExtension, .defaultDdlCollation, .comment]

namespace DatabaseProperties

/-- The value that a property is to be set to, as it is written. -/
def value? (properties : DatabaseProperties) : DatabaseProperty → Option String
  | .dataRetention => properties.dataRetention.map toString
  | .maxDataExtension => properties.maxDataExtension.map toString
  | .defaultDdlCollation => properties.defaultDdlCollation.map (Text.enclose '\'')
  | .comment => properties.comment.map (Text.enclose '\'')

/-- The properties that are to be set with their values, in the declared order. -/
def assignments (properties : DatabaseProperties) : List String :=
  DatabaseProperty.declared.filterMap fun property =>
    (properties.value? property).map fun value => property.keyword ++ " = " ++ value

theorem length_assignments_le (properties : DatabaseProperties) :
    properties.assignments.length ≤ 4 :=
  List.length_filterMap_le _ _

theorem writes_assignments (properties : DatabaseProperties) :
    Writes 1 (fun place => (clause properties).sqlAt place) properties.assignments := by
  have pieces := writes_clause (d := 0) properties <|
    .cons (leaves_number (by decide)) <| .cons (leaves_number (by decide)) <|
    .cons (leaves_quoted (by decide)) <| .cons (leaves_quoted (by decide)) .nil
  convert pieces using 1
  rw [assignments, List.filterMap_eq_flatMap_toList]
  simp [DatabaseProperty.declared, value?, DatabaseProperty.keyword, Link.attach, Option.toList_map,
    Function.comp_def]

/-- A property counts as set when it is assigned. -/
theorem assignments_ne_nil_iff (properties : DatabaseProperties) :
    properties.assignments ≠ [] ↔
      0 < setAmong (layout : Layout DatabaseProperties).fields properties := by
  rw [setAmong, List.countP_pos_iff, assignments, ne_eq, List.filterMap_eq_nil_iff]
  simp [DatabaseProperty.declared, value?, layout, fields, number, literal,
    Option.isSome_iff_ne_none]
  tauto

end DatabaseProperties

/-! ## Actions -/

/-- What an `ALTER DATABASE` statement can do. -/
inductive DatabaseAction where
  | rename (newName : AccountScoped)
  | swap (other : AccountScoped)
  | set (properties : DatabaseProperties)
  | unset (properties : List DatabaseProperty)

/-- The text of an action, as pieces between spaces. -/
def DatabaseAction.pieces : DatabaseAction → List String
  | .rename newName => ["RENAME TO", (newName : Identifier).text]
  | .swap other => ["SWAP WITH", (other : Identifier).text]
  | .set properties => "SET" :: properties.assignments
  | .unset properties => ["UNSET", ", ".intercalate (properties.map (·.keyword))]

namespace AlterDatabase

/-- What a statement does; properties are unset when some are listed. -/
def actions (statement : AlterDatabase) : List DatabaseAction :=
  statement.newName.toList.map .rename ++ statement.swapsWith.toList.map .swap ++
    statement.sets.toList.map .set ++
    if statement.unsets = [] then [] else [.unset statement.unsets]

/-- The text of a statement is what stands in front of the actions, and the actions. -/
theorem writes_actions (statement : AlterDatabase) :
    Writes 2 (fun place => (clause statement).sqlAt place)
      (["ALTER DATABASE"] ++ (if statement.ifExists = some true then ["IF EXISTS"] else []) ++
        [(statement.name : Identifier).text] ++ statement.actions.flatMap (·.pieces)) := by
  have keywords : ∀ item ∈ statement.unsets.map (·.keyword), item ≠ "" := by
    intro item mem
    obtain ⟨property, -, rfl⟩ := List.mem_map.mp mem
    cases property <;> decide
  have pieces := writes_clause (d := 1) statement <|
    .cons (leaves_fixed (by decide)) <| .cons (leaves_toggle (by decide)) <|
    .cons leaves_identifier <| .cons (leaves_reference (by decide)) <|
    .cons (leaves_reference (by decide)) <|
    .cons (leaves_record? (by decide) DatabaseProperties.writes_assignments) <|
    .cons (leaves_texts (by decide) keywords) .nil
  convert pieces using 1
  by_cases none : statement.unsets = []
  all_goals
    simp [actions, DatabaseAction.pieces, List.flatMap_map, none]
    rfl

/-- As many fields are set as there are actions. -/
theorem length_actions (statement : AlterDatabase) :
    statement.actions.length = setAmong
      [reference "new_name" "RENAME TO" (·.newName),
        reference "swap_with" "SWAP WITH" (·.swapsWith),
        ⟨"set", .keyword "SET", fun statement => .ofRecord? statement.sets⟩,
        ⟨"unset", .keyword "UNSET", fun statement => .ofTexts (statement.unsets.map (·.keyword))⟩]
      statement := by
  simp [actions, reference, Option.length_toList, apply_ite List.length]

theorem passes_set_iff {path : String} (properties : DatabaseProperties) :
    (∀ rule ∈ [.atLeastOneOf ["data_retention_time_in_days", "max_data_extension_time_in_days",
        "default_ddl_collation", "comment"]] ++ (layout : Layout DatabaseProperties).rules,
      (clause properties).Passes path rule) ↔ properties.assignments ≠ [] := by
  have unruled : (layout : Layout DatabaseProperties).rules = [] := rfl
  rw [unruled, List.append_nil, List.forall_mem_singleton,
    passes_atLeastOneOf_iff layout.fields rfl, DatabaseProperties.assignments_ne_nil_iff]

theorem accepted_iff (statement : AlterDatabase) :
    (clause statement).validate = .ok () ↔
      (statement.name : Identifier).isValid ∧ statement.actions.length = 1 ∧
        (∀ newName ∈ statement.newName, (newName : Identifier).isValid) ∧
        (∀ other ∈ statement.swapsWith, (other : Identifier).isValid) ∧
        ∀ properties ∈ statement.sets, properties.assignments ≠ [] := by
  rw [Described.accepted_iff]
  simp only [layout, List.forall_mem_cons, List.not_mem_nil, false_implies, implies_true, and_true]
  rw [passes_identifier_iff statement rfl, passes_identifier?_iff statement rfl,
    passes_identifier?_iff statement rfl, passes_exactlyOneOf_iff [_, _, _, _] rfl,
    passes_record?_iff statement rfl]
  simp only [passes_set_iff, length_actions]
  tauto

/-- **An accepted statement does one thing.**

1. A statement is accepted when it names a database, does one thing, and says what that thing needs:
   a name for the database or of the other database, or some property to set.
2. An accepted statement is written as what stands in front and its action.  Where it sets
   properties, there are one to four of them. -/
theorem accepted_does_one_thing (statement : AlterDatabase) :
    ((clause statement).validate = .ok () ↔
      (statement.name : Identifier).isValid ∧ statement.actions.length = 1 ∧
        (∀ newName ∈ statement.newName, (newName : Identifier).isValid) ∧
        (∀ other ∈ statement.swapsWith, (other : Identifier).isValid) ∧
        ∀ properties ∈ statement.sets, properties.assignments ≠ []) ∧
    ((clause statement).validate = .ok () → ∃ action, statement.actions = [action] ∧
      (∀ limit, 2 ≤ limit → (clause statement).sql limit = .ok (" ".intercalate
        (["ALTER DATABASE"] ++ (if statement.ifExists = some true then ["IF EXISTS"] else []) ++
          [(statement.name : Identifier).text] ++ action.pieces))) ∧
      ∀ properties, action = .set properties →
        1 ≤ properties.assignments.length ∧ properties.assignments.length ≤ 4) := by
  refine ⟨statement.accepted_iff, fun accepted => ?_⟩
  obtain ⟨-, one, -, -, some⟩ := statement.accepted_iff.mp accepted
  obtain ⟨action, alone⟩ := List.length_eq_one_iff.mp one
  refine ⟨action, alone, fun limit room => ?_, ?_⟩
  · have written := statement.writes_actions.sql_eq room
    rwa [alone, List.flatMap_singleton] at written
  · rintro properties rfl
    have set : properties ∈ statement.sets := by
      have mem : DatabaseAction.set properties ∈ statement.actions := by simp [alone]
      simpa [actions] using mem
    exact ⟨List.length_pos_iff.mpr (some properties set), properties.length_assignments_le⟩

/-- Two properties are set in the declared order, whichever was named first. -/
example :
    let properties :=
      { DatabaseProperties.none with comment := some "it's", dataRetention := some 3 }
    (clause ((ofName ⟨"DB"⟩).onlyIfExists.set properties)).sql 2 =
      .ok "ALTER DATABASE IF EXISTS DB SET DATA_RETENTION_TIME_IN_DAYS = 3 COMMENT = 'it''s'" := by
  decide +kernel

end AlterDatabase

end WarehouseAdmin
