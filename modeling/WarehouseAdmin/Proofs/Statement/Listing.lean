import WarehouseAdmin.Proofs.Statement.Acceptance
import WarehouseAdmin.Proofs.Statement.Writing

/-!
# Where a listing looks

The scope of a `SHOW` statement has three fields, and the check lets a scope through in which
exactly one of them is set.  For the database and the schema this is what the writer needs: the
identifier that is set is written behind its keyword.  The account is a flag, and a flag is set also
when it is `false`, but then nothing is written for it.  The keyword `IN` stands in front of the
inner record and is written in any case, so a scope of an account that is `false` ends in a bare
`IN`.

## Main statements

* `ShowObjects.accepted_scope_is_one_place` — an accepted scope is one place, and what is written
  for it.
* `ShowObjects.accepted_scope_without_place` — an accepted statement that names no place behind
  `IN`.
-/

namespace WarehouseAdmin

open Described Layout.Field

/-! ## Places -/

/-- A place to look for objects. -/
inductive Place where
  /-- The account, if the flag says so. -/
  | account (here : Bool)
  | database (id : AccountScoped)
  | schema (id : DatabaseScoped)

/-- The text of a place, as pieces between spaces. -/
def Place.pieces : Place → List String
  | .account here => if here then ["ACCOUNT"] else []
  | .database id => ["DATABASE", (id : Identifier).text]
  | .schema id => ["SCHEMA", (id : Identifier).text]

/-- A place is written unless it is the account and the flag is not on. -/
theorem Place.pieces_eq_nil_iff {place : Place} : place.pieces = [] ↔ place = .account false := by
  cases place with
  | account here => cases here <;> simp [pieces]
  | database | schema => simp [pieces]

namespace Scope

/-- The places that are set in a scope. -/
def places (scope : Scope) : List Place :=
  scope.account.toList.map .account ++ scope.database.toList.map .database ++
    scope.schema.toList.map .schema

theorem mem_places_account {scope : Scope} {here : Bool} :
    .account here ∈ scope.places ↔ scope.account = some here := by
  simp [places]

/-- The text of a scope is the places in it. -/
theorem writes_places (scope : Scope) :
    Writes 1 (fun place => (clause scope).sqlAt place) (scope.places.flatMap (·.pieces)) := by
  have pieces := writes_clause (d := 0) scope <|
    .cons (leaves_toggle (by decide)) <| .cons (leaves_reference (by decide)) <|
    .cons (leaves_reference (by decide)) .nil
  have flag : (scope.account.toList.flatMap fun here => if here then ["ACCOUNT"] else []) =
      if scope.account = some true then ["ACCOUNT"] else [] := by
    cases scope.account <;> simp
  convert pieces using 1
  simp [places, Place.pieces, List.flatMap_map, flag]
  rfl

/-- As many fields are set as there are places. -/
theorem length_places (scope : Scope) :
    scope.places.length = setAmong (layout : Layout Scope).fields scope := by
  simp [places, layout, toggle, reference, Option.length_toList]

theorem passes_iff {path : String} (scope : Scope) :
    (∀ rule ∈ (layout : Layout Scope).rules, (clause scope).Passes path rule) ↔
      scope.places.length = 1 ∧ (∀ id ∈ scope.database, (id : Identifier).isValid) ∧
        ∀ id ∈ scope.schema, (id : Identifier).isValid := by
  simp only [layout, List.forall_mem_cons, List.not_mem_nil, false_implies, implies_true, and_true]
  rw [passes_exactlyOneOf_iff layout.fields rfl, passes_identifier?_iff scope rfl,
    passes_identifier?_iff scope rfl, length_places]
  rfl

end Scope

/-! ## Statements -/

namespace ShowObjects

/-- The pieces in front of the scope. -/
def front (statement : ShowObjects) : List String :=
  ["SHOW"] ++ (if statement.terse = some true then ["TERSE"] else []) ++
    [statement.listed.keyword] ++
    statement.pattern.toList.map fun pattern => "LIKE " ++ Text.enclose '\'' pattern

/-- The pieces behind the scope. -/
def back (statement : ShowObjects) : List String :=
  (statement.namesStart.toList.map fun start => "STARTS WITH " ++ Text.enclose '\'' start) ++
    statement.rows.toList.map fun rows => "LIMIT " ++ toString rows

theorem writes_scope (statement : ShowObjects) :
    Writes 2 (fun place => (clause statement).sqlAt place)
      (statement.front ++
        (statement.scope.toList.flatMap fun scope => "IN" :: scope.places.flatMap (·.pieces)) ++
        statement.back) := by
  have keyword : statement.listed.keyword ≠ "" := by
    cases statement.listed <;> decide
  have pieces := writes_clause (d := 1) statement <|
    .cons (leaves_fixed (by decide)) <| .cons (leaves_toggle (by decide)) <|
    .cons (leaves_word keyword) <| .cons (leaves_quoted (by decide)) <|
    .cons (leaves_record? (by decide) Scope.writes_places) <|
    .cons (leaves_quoted (by decide)) <| .cons (leaves_number (by decide)) .nil
  convert pieces using 1
  simp [front, back, Link.attach]

theorem accepted_iff (statement : ShowObjects) :
    (clause statement).validate = .ok () ↔
      ∀ scope ∈ statement.scope, scope.places.length = 1 ∧
        (∀ id ∈ scope.database, (id : Identifier).isValid) ∧
        ∀ id ∈ scope.schema, (id : Identifier).isValid := by
  rw [Described.accepted_iff]
  simp only [layout, List.forall_mem_cons, List.not_mem_nil, false_implies, implies_true, and_true]
  rw [passes_record?_iff statement rfl]
  simp only [List.nil_append, Scope.passes_iff]

/-- **An accepted scope is one place**, and it is written behind `IN` unless it is the account and
the flag is `false`.

1. A statement is accepted when its scope, if it is set, is one place, and this place has a name if
   it needs one.
2. An accepted statement with a scope is written as what stands in front, the keyword, the place and
   what stands behind.
3. Nothing is written for the place only if the account is set to `false`. -/
theorem accepted_scope_is_one_place (statement : ShowObjects) :
    ((clause statement).validate = .ok () ↔
      ∀ scope ∈ statement.scope, scope.places.length = 1 ∧
        (∀ id ∈ scope.database, (id : Identifier).isValid) ∧
        ∀ id ∈ scope.schema, (id : Identifier).isValid) ∧
    ((clause statement).validate = .ok () → ∀ scope ∈ statement.scope,
      ∃ place, scope.places = [place] ∧
      (∀ limit, 2 ≤ limit → (clause statement).sql limit =
        .ok (" ".intercalate (statement.front ++ "IN" :: place.pieces ++ statement.back))) ∧
      (place.pieces = [] ↔ scope.account = some false)) := by
  refine ⟨statement.accepted_iff, fun accepted scope set => ?_⟩
  obtain ⟨one, -, -⟩ := statement.accepted_iff.mp accepted scope set
  obtain ⟨place, alone⟩ := List.length_eq_one_iff.mp one
  refine ⟨place, alone, fun limit room => ?_, ?_⟩
  · have written := statement.writes_scope.sql_eq room
    rwa [Option.mem_def.mp set, Option.toList_some, List.flatMap_singleton, alone,
      List.flatMap_singleton] at written
  · rw [Place.pieces_eq_nil_iff, ← Scope.mem_places_account, alone, List.mem_singleton, eq_comm]

/-- A listing of the tables in an account that is set to `false` is accepted, and its text ends in
the keyword: nothing that could name a place comes behind it. -/
theorem accepted_scope_without_place :
    let statement := (ShowObjects.of .tables).inScope { Scope.unset with account := some false }
    (clause statement).validate = .ok () ∧ statement.scope.isSome ∧
      (∀ limit, 2 ≤ limit → (clause statement).sql limit = .ok "SHOW TABLES IN") ∧
      ¬ "IN ".toList <:+: "SHOW TABLES IN".toList := by
  intro statement
  refine ⟨?_, rfl, fun limit room => ?_, ?_⟩
  · rfl
  · have written := statement.writes_scope.sql_eq room
    simpa [statement, inScope, ShowObjects.of, Scope.unset, front, back, Scope.places, Place.pieces,
      Listed.keyword, String.intercalate_cons_cons] using written
  · simp [List.infix_cons_iff]

end ShowObjects

end WarehouseAdmin
