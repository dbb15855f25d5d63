import WarehouseAdmin.Proofs.Check.Verdict
import WarehouseAdmin.Sql.Statement

/-!
# Guarded identifiers

Nothing checks an identifier just because it stands in a clause.  It is checked when its clause
declares a rule about the field, and when nested rules lead to this clause from the statement.  If
one rule on the way is missing, whatever is in the field is accepted.  `Clause.Guards` says that
none is missing.

The second part follows identifiers into the text.  A statement is written from its tree, so a
change of identifiers that the tree does not hold leaves no trace in the text.

## Main statements

* `Clause.Guards.name_ne_empty` — a guarded identifier of an accepted statement names something.
* `Clause.sql_mapIdentifiers` — which identifiers the text of a statement depends on.
-/

namespace WarehouseAdmin

/-! ## Identifiers of a tree -/

mutual

/-- Every identifier in a value, at any depth. -/
def Value.identifiers : Value → List Identifier
  | .identifier id => [id]
  | .nested clause | .embedded clause => clause.identifiers
  | .list items => Value.identifiersAmong items
  | _ => []
termination_by structural value => value

def Value.identifiersAmong : List Value → List Identifier
  | [] => []
  | item :: items => item.identifiers ++ Value.identifiersAmong items
termination_by structural items => items

def Entry.identifiersAmong : List Entry → List Identifier
  | [] => []
  | ⟨_, _, value⟩ :: entries => value.identifiers ++ Entry.identifiersAmong entries
termination_by structural entries => entries

/-- Every identifier in a clause, at any depth. -/
def Clause.identifiers : Clause → List Identifier
  | ⟨_, entries, _⟩ => Entry.identifiersAmong entries
termination_by structural clause => clause

end

theorem Value.identifiersAmong_eq_flatMap (items : List Value) :
    Value.identifiersAmong items = items.flatMap Value.identifiers := by
  induction items with
  | nil => rfl
  | cons item items ih => rw [Value.identifiersAmong, ih, List.flatMap_cons]

theorem Clause.identifiers_eq_flatMap (clause : Clause) :
    clause.identifiers = clause.entries.flatMap (·.value.identifiers) := by
  obtain ⟨object, entries, rules⟩ := clause
  rw [Clause.identifiers]
  induction entries with
  | nil => rfl
  | cons entry entries ih =>
      obtain ⟨field, directive, value⟩ := entry
      rw [Entry.identifiersAmong, ih, List.flatMap_cons]

/-! ## Guards -/

/-- **Guarded identifiers.**  A rule of the clause is about the field that the identifier is in, or
the identifier is guarded in a clause that a nested rule leads to. -/
inductive Clause.Guards : Clause → Identifier → Prop
  | here {clause : Clause} {field : String} {optional : Bool} {entry : Entry} {id : Identifier}
      (rule : .validIdentifier field optional ∈ clause.rules)
      (first : clause.entry? field = some entry)
      (mention : entry.value.Mentions id) : clause.Guards id
  | inner {clause inner : Clause} {field : String} {given : List Rule} {entry : Entry}
      {part : Value} {id : Identifier} (rule : .nested field given ∈ clause.rules)
      (first : clause.entry? field = some entry) (set : ¬ entry.value.Unset)
      (mem : part ∈ entry.value.parts) (holds : part.Holds inner) (guards : inner.Guards id) :
      clause.Guards id

namespace Clause

variable {clause : Clause} {id : Identifier}

/-- Wherever the walk of an accepted statement checks a clause with its own rules, what the clause
guards names something. -/
theorem Guards.name_ne_empty_of_reaches {inner : Clause} (guards : inner.Guards id)
    (accepted : clause.validate = .ok ()) {place : List Nat} {path : String}
    (reach : clause.duty.Reaches place ⟨inner, path, inner.rules⟩) : id.name ≠ "" := by
  induction guards generalizing place path with
  | here rule first mention =>
      intro empty
      exact not_breaks_of_accepted accepted reach rule (.invalidIdentifier first mention empty)
  | @inner outer inner field given entry part id rule first set mem holds guards ih =>
      -- The second duty that the nested rule hands on is the one with the rules of the inner
      -- clause.
      obtain ⟨i, rule_i⟩ := List.mem_iff_getElem?.mp rule
      obtain ⟨j, part_j⟩ := List.mem_iff_getElem?.mp mem
      have inside : entry.value.Inner (fieldPath path field) j inner _ :=
        Value.inner_iff.mpr ⟨part, part_j, holds, rfl⟩
      have turn : [given, inner.rules][1]? = some inner.rules := rfl
      exact ih (reach.inner (.inner rule_i first set inside turn))

/-- **A guarded identifier of an accepted statement names something.** -/
theorem Guards.name_ne_empty (guards : clause.Guards id) (accepted : clause.validate = .ok ()) :
    id.name ≠ "" :=
  guards.name_ne_empty_of_reaches accepted .start

end Clause

/-! ## Changing identifiers -/

mutual

/-- Changes every identifier in a value. -/
def Value.mapIdentifiers (f : Identifier → Identifier) : Value → Value
  | .identifier id => .identifier (f id)
  | .nested clause => .nested (clause.mapIdentifiers f)
  | .embedded clause => .embedded (clause.mapIdentifiers f)
  | .list items => .list (Value.mapIdentifiersAmong f items)
  | value => value
termination_by structural value => value

def Value.mapIdentifiersAmong (f : Identifier → Identifier) : List Value → List Value
  | [] => []
  | item :: items => item.mapIdentifiers f :: Value.mapIdentifiersAmong f items
termination_by structural items => items

def Entry.mapIdentifiersAmong (f : Identifier → Identifier) : List Entry → List Entry
  | [] => []
  | ⟨field, directive, value⟩ :: entries =>
    ⟨field, directive, value.mapIdentifiers f⟩ :: Entry.mapIdentifiersAmong f entries
termination_by structural entries => entries

/-- Changes every identifier in a clause. -/
def Clause.mapIdentifiers (f : Identifier → Identifier) : Clause → Clause
  | ⟨object, entries, rules⟩ => ⟨object, Entry.mapIdentifiersAmong f entries, rules⟩
termination_by structural clause => clause

end

section

variable {f : Identifier → Identifier}

mutual

theorem Value.mapIdentifiers_eq_self : ∀ value : Value, (∀ id ∈ value.identifiers, f id = id) →
    value.mapIdentifiers f = value
  | .identifier id, fixed => by rw [Value.mapIdentifiers, fixed id List.mem_cons_self]
  | .nested clause, fixed => by
    rw [Value.mapIdentifiers, Clause.mapIdentifiers_eq_self clause fixed]
  | .embedded clause, fixed => by
    rw [Value.mapIdentifiers, Clause.mapIdentifiers_eq_self clause fixed]
  | .list items, fixed => by
    rw [Value.mapIdentifiers, Value.mapIdentifiersAmong_eq_self items fixed]
  | .absent, _ | .flag _, _ | .text _, _ | .number _, _ => rfl
termination_by structural value => value

theorem Value.mapIdentifiersAmong_eq_self : ∀ items : List Value,
    (∀ id ∈ Value.identifiersAmong items, f id = id) → Value.mapIdentifiersAmong f items = items
  | [], _ => rfl
  | item :: items, fixed => by
    obtain ⟨head, tail⟩ := List.forall_mem_append.mp fixed
    rw [Value.mapIdentifiersAmong, Value.mapIdentifiers_eq_self item head,
      Value.mapIdentifiersAmong_eq_self items tail]
termination_by structural items => items

theorem Entry.mapIdentifiersAmong_eq_self : ∀ entries : List Entry,
    (∀ id ∈ Entry.identifiersAmong entries, f id = id) →
      Entry.mapIdentifiersAmong f entries = entries
  | [], _ => rfl
  | ⟨field, directive, value⟩ :: entries, fixed => by
    obtain ⟨head, tail⟩ := List.forall_mem_append.mp fixed
    rw [Entry.mapIdentifiersAmong, Value.mapIdentifiers_eq_self value head,
      Entry.mapIdentifiersAmong_eq_self entries tail]
termination_by structural entries => entries

theorem Clause.mapIdentifiers_eq_self : ∀ clause : Clause, (∀ id ∈ clause.identifiers, f id = id) →
    clause.mapIdentifiers f = clause
  | ⟨_, entries, _⟩, fixed => by
    rw [Clause.mapIdentifiers, Entry.mapIdentifiersAmong_eq_self entries fixed]
termination_by structural clause => clause

end

/-- **The text of a statement depends on no other identifiers than those in its tree.** -/
theorem Clause.sql_mapIdentifiers {clause : Clause} (fixed : ∀ id ∈ clause.identifiers, f id = id)
    (limit : Nat) : (clause.mapIdentifiers f).sql limit = clause.sql limit := by
  rw [Clause.mapIdentifiers_eq_self clause fixed]

end

end WarehouseAdmin
