import WarehouseAdmin.Proofs.Check.Verdict
import WarehouseAdmin.Proofs.Statement.Identifiers

/-!
# When a record is accepted

The rules of a layout are about fields by name, and each field is read off the record in a known
way.  So what a rule asks of the clause of a record can be said of the record itself.  There is one
statement for each way in which the rules of layouts look at fields: by counting those that are set,
by looking at an identifier, and by going into an inner record.

## Main statements

* `Described.accepted_iff` — a record is accepted when the rules of its layout pass on it.
-/

namespace WarehouseAdmin

/-! ## Values that are set -/

namespace Value

variable {α : Type}

@[simp] theorem isPresent_ofFlag? (b : Option Bool) : (ofFlag? b).isPresent = b.isSome := by
  cases b <;> rfl

@[simp] theorem isPresent_ofText? (s : Option String) : (ofText? s).isPresent = s.isSome := by
  cases s <;> rfl

@[simp] theorem isPresent_ofNat? (n : Option Nat) : (ofNat? n).isPresent = n.isSome := by
  cases n <;> rfl

@[simp] theorem isPresent_ofIdentifier? [Coe α Identifier] (id : Option α) :
    (ofIdentifier? id).isPresent = id.isSome := by
  cases id <;> rfl

@[simp] theorem isPresent_ofRecord? [Described α] (record : Option α) :
    (ofRecord? record).isPresent = record.isSome := by
  cases record <;> rfl

@[simp] theorem isPresent_ofTexts (items : List String) :
    (ofTexts items).isPresent = !items.isEmpty := by
  cases items <;> rfl

end Value

namespace Described

variable {α β : Type} [Described α] {name path : String} {names : List String}
  {field : Layout.Field α} {directive : Directive} {given : List Rule}

/-- **A record is accepted when the rules of its layout pass on it.** -/
theorem accepted_iff (record : α) : (clause record).validate = .ok () ↔
    ∀ rule ∈ (layout : Layout α).rules, (clause record).Passes (layout : Layout α).object rule :=
  Clause.validate_eq_ok_iff_passes

/-! ## Counting fields -/

theorem lookup_eq (found : layout.field? name = some field) (object : String) (record : α) :
    Entry.lookup object (clause record).entries name = .ok (field.read record) :=
  Entry.lookup_eq_ok_iff.mpr ⟨_, first_of_field found record, rfl⟩

/-- How many of the fields of a record are set. -/
def setAmong (fields : List (Layout.Field α)) (record : α) : Nat :=
  fields.countP fun field => (field.read record).isPresent

omit [Described α] in
@[simp] theorem setAmong_nil (record : α) : setAmong [] record = 0 := rfl

omit [Described α] in
@[simp] theorem setAmong_cons (field : Layout.Field α) (fields : List (Layout.Field α))
    (record : α) :
    setAmong (field :: fields) record =
      (if (field.read record).isPresent then 1 else 0) + setAmong fields record := by
  rw [setAmong, List.countP_cons, Nat.add_comm]
  rfl

variable (fields : List (Layout.Field α))

theorem countPresent_eq (found : names.map (layout : Layout α).field? = fields.map some)
    (object : String) (record : α) :
    Entry.countPresent object (clause record).entries names = .ok (setAmong fields record) := by
  have values : names.mapM (Entry.lookup object (clause record).entries) =
      .ok (fields.map (·.read record)) := by
    induction names generalizing fields with
    | nil =>
        obtain rfl := List.map_eq_nil_iff.mp found.symm
        rfl
    | cons name names ih =>
        obtain ⟨field, others, rfl, first, rest⟩ := List.map_eq_cons_iff.mp found.symm
        rw [List.mapM_cons, lookup_eq first.symm, ih _ rest.symm]
        rfl
  rw [Entry.countPresent, values]
  exact congrArg Except.ok List.countP_map

theorem passes_exactlyOneOf_iff (found : names.map (layout : Layout α).field? = fields.map some)
    (record : α) :
    (clause record).Passes path (.exactlyOneOf names) ↔ setAmong fields record = 1 := by
  rw [Clause.passes_exactlyOneOf_iff, countPresent_eq fields found, Except.ok.injEq]

theorem passes_atLeastOneOf_iff (found : names.map (layout : Layout α).field? = fields.map some)
    (record : α) :
    (clause record).Passes path (.atLeastOneOf names) ↔ 0 < setAmong fields record := by
  rw [Clause.passes_atLeastOneOf_iff, countPresent_eq fields found]
  simp

theorem passes_conflicting_iff (found : names.map (layout : Layout α).field? = fields.map some)
    (record : α) :
    (clause record).Passes path (.conflicting names) ↔ setAmong fields record ≤ 1 := by
  rw [Clause.passes_conflicting_iff, countPresent_eq fields found]
  simp

/-! ## Identifiers -/

theorem passes_identifier_iff {read : α → Identifier} (record : α)
    (found : layout.field? name = some (.identifier name read)) :
    (clause record).Passes path (.identifier name) ↔ (read record).isValid := by
  rw [Rule.identifier, Clause.passes_validIdentifier_iff (first_of_field found record)]
  show Except.ok (read record).isValid = Except.ok true ↔ _
  simp

theorem passes_identifier?_iff [Coe β Identifier] {read : α → Option β} (record : α)
    (found : layout.field? name =
      some ⟨name, directive, fun record => .ofIdentifier? (read record)⟩) :
    (clause record).Passes path (.optionalIdentifier name) ↔
      ∀ b ∈ read record, (b : Identifier).isValid := by
  rw [Rule.optionalIdentifier, Clause.passes_validIdentifier_iff (first_of_field found record)]
  show (Value.ofIdentifier? (read record)).identifiersFit _ name true = .ok true ↔ _
  cases read record with
  | none => exact iff_of_true rfl (by simp)
  | some b =>
      show Except.ok (b : Identifier).isValid = Except.ok true ↔ _
      simp

/-! ## Inner records -/

theorem passes_record?_iff [Described β] {read : α → Option β} (record : α)
    (found : layout.field? name = some ⟨name, directive, fun record => .ofRecord? (read record)⟩) :
    (clause record).Passes path (.nested name given) ↔
      ∀ inner ∈ read record, ∀ rule ∈ given ++ (layout : Layout β).rules,
        (clause inner).Passes (fieldPath path name) rule := by
  have first := first_of_field found record
  cases set : read record with
  | none =>
      have absent : Value.ofRecord? (read record) = .absent := by rw [set]; rfl
      rw [Clause.passes_nested first]
      show ((Value.ofRecord? (read record)).isPresent = true → _) ↔ _
      rw [absent]
      exact iff_of_true (fun present => by cases present) (by simp)
  | some inner =>
      have nested : Value.ofRecord? (read record) = .nested (clause inner) := by rw [set]; rfl
      rw [Clause.passes_nested_iff first nested]
      simp only [Option.mem_some_iff, forall_eq']
      rfl

end Described

end WarehouseAdmin
