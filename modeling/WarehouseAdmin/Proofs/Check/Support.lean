import WarehouseAdmin.Proofs.Check.Misuse

/-!
# Rules that a clause supports

A rule is looked up by the names of its fields, and nothing but the walk finds out that a name is
wrong or that a value is of the wrong kind.  `Clause.Supports` says of a clause and a rule that
neither can happen, also in the clauses that the rule leads to.  For a nested rule this means that
every clause in the field supports the rules that are given there and the rules that it declares
itself.

So a clause that supports its own rules is judged: it is accepted, or its violations are listed.

## Main statements

* `Clause.Supports.not_found` — a supported rule has no misuse, here or behind it.
* `Clause.validate_of_supports` — the check of a clause that supports its own rules.
-/

namespace WarehouseAdmin

/-- Whether a rule asks what is in a field, and not only which fields are set. -/
def Rule.looksInside : Rule → Bool
  | .validIdentifier _ _ | .nested _ _ => true
  | _ => false

namespace Clause

/-- The clause has a field of that name. -/
def HasField (clause : Clause) (field : String) : Prop :=
  ∃ entry, clause.entry? field = some entry

/-- **Rules that a clause supports.** -/
inductive Supports : Clause → Rule → Prop
  /-- The rule only asks which of its fields are set. -/
  | presence {clause : Clause} {rule : Rule} (outside : rule.looksInside = false)
      (known : ∀ field ∈ rule.fields, clause.HasField field) : Supports clause rule
  /-- There is nothing in the field but identifiers. -/
  | validIdentifier {clause : Clause} {field : String} {optional : Bool} {entry : Entry}
      (first : clause.entry? field = some entry)
      (identifiers : entry.value ≠ .absent →
        ∀ part ∈ entry.value.parts, ∃ id, part = .identifier id) :
      Supports clause (.validIdentifier field optional)
  /-- There is nothing in the field but clauses, and each of them supports what it is checked for.
  -/
  | nested {clause : Clause} {field : String} {given : List Rule} {entry : Entry}
      (first : clause.entry? field = some entry)
      (clauses : ¬ entry.value.Unset → ∀ part ∈ entry.value.parts, ∃ inner, part.Holds inner)
      (inner : ∀ part ∈ entry.value.parts, ∀ inner, part.Holds inner →
        ∀ rule ∈ given ++ inner.rules, Supports inner rule) :
      Supports clause (.nested field given)

namespace Supports

variable {clause : Clause} {rule : Rule}

theorem hasField (supports : clause.Supports rule) :
    ∀ field ∈ rule.fields, clause.HasField field := by
  cases supports with
  | presence outside known => exact known
  | validIdentifier first | nested first => simpa [Rule.fields] using ⟨_, first⟩

/-- A supported rule is not misused on the clause itself. -/
theorem not_misuseAt (supports : clause.Supports rule) (j : Nat) (m : Misuse) :
    ¬ clause.MisuseAt rule j m := by
  intro misuse
  cases misuse with
  | unknownField about unknown =>
      obtain ⟨entry, first⟩ := supports.hasField _ (List.mem_of_getElem? about)
      exact not_isUnknown_of_first first _ ⟨unknown, rfl⟩
  | notIdentifier first there part_j other =>
      cases supports with
      | presence outside => simp [Rule.looksInside] at outside
      | validIdentifier first' identifiers =>
          obtain rfl := Option.some.inj (first.symm.trans first')
          obtain ⟨id, rfl⟩ := identifiers there _ (List.mem_of_getElem? part_j)
          exact other id rfl
  | notClause first set part_j other =>
      cases supports with
      | presence outside => simp [Rule.looksInside] at outside
      | nested first' clauses =>
          obtain rfl := Option.some.inj (first.symm.trans first')
          obtain ⟨inner, holds⟩ := clauses set _ (List.mem_of_getElem? part_j)
          exact other inner holds

/-- A rule that leads to no clause has no misuse anywhere else. -/
theorem not_found_of_leaf (supports : clause.Supports rule)
    (leaf : ∀ field given, rule ≠ .nested field given) {path : String} {rules : List Rule}
    {place : List Nat} {m : Misuse} :
    ¬ rule.Found Duty.OwnMisuse ⟨clause, path, rules⟩ place m := by
  rintro (⟨j, -, misuse⟩ | ⟨field, given, -, nested, -⟩)
  · exact supports.not_misuseAt j m misuse
  · exact leaf field given nested

/-- **A supported rule has no misuse**, on the clause itself or in the clauses that it leads to.
The induction is on how the clause supports the rule, so it goes down the tree along nested rules.
-/
theorem not_found (supports : clause.Supports rule) (path : String) (rules : List Rule)
    (place : List Nat) (m : Misuse) :
      ¬ rule.Found Duty.OwnMisuse ⟨clause, path, rules⟩ place m := by
  induction supports generalizing path rules place with
  | presence outside known =>
      apply not_found_of_leaf (.presence outside known)
      rintro field given rfl
      simp [Rule.looksInside] at outside
  | validIdentifier first identifiers =>
      apply not_found_of_leaf (.validIdentifier first identifiers)
      simp
  | @nested clause field given entry first clauses inner ih =>
      rintro (⟨j, -, misuse⟩ | ⟨_, _, _, same, first', -, j, inside, path', _, lies, -, duty⟩)
      · exact (Supports.nested first clauses inner).not_misuseAt j m misuse
      · obtain ⟨rfl, rfl⟩ := Rule.nested.inj same
        obtain rfl := Option.some.inj (first.symm.trans first')
        obtain ⟨part, part_j, holds, -⟩ := Value.inner_iff.mp lies
        -- Of the two duties one has the rules that are given, and one those of the inner clause.
        obtain ⟨_, turn, _, which, -, found⟩ := duty
        obtain ⟨_, rule, rest, rule_i, -, found⟩ := Duty.found_iff.mp found
        have listed : rule ∈ turn := List.mem_of_getElem? rule_i
        have checked : rule ∈ given ++ inside.rules := by
          have either : turn = given ∨ turn = inside.rules :=
            List.mem_pair.mp (List.mem_of_getElem? which)
          rcases either with rfl | rfl
          · exact List.mem_append_left _ listed
          · exact List.mem_append_right _ listed
        exact ih part (List.mem_of_getElem? part_j) inside holds rule checked path' turn rest found

end Supports

/-- **A clause that supports its own rules is judged.**  It is accepted, or rejected with
violations. -/
theorem validate_of_supports {clause : Clause}
    (supports : ∀ rule ∈ clause.rules, clause.Supports rule) :
    clause.validate = .ok () ∨ ∃ vs, vs ≠ [] ∧ clause.validate = .error (.violations vs) := by
  have checked : ∀ m, clause.violations ≠ .error m := by
    intro m failed
    have reports : ReportsFirst clause.duty.MisuseAt clause.violations :=
      findings_reports clause clause.object clause.rules
    obtain ⟨place, m, found⟩ := reports.exists_eq_error_iff.mp ⟨m, failed⟩
    obtain ⟨i, rule, rest, rule_i, -, found⟩ := Duty.found_iff.mp found
    exact (supports rule (List.mem_of_getElem? rule_i)).not_found _ _ rest m found
  cases run : clause.violations with
  | error m => exact absurd run (checked m)
  | ok vs =>
      rw [validate, run]
      cases vs with
      | nil => exact Or.inl rfl
      | cons v vs => exact Or.inr ⟨v :: vs, by simp, rfl⟩

end Clause

end WarehouseAdmin
