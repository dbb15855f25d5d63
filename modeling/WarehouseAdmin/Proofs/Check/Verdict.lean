import WarehouseAdmin.Proofs.Check.Completeness

/-!
# Acceptance

A statement is accepted when the walk reaches its end without a violation.  So on every clause that
the walk leads to, none of the rules that are checked there is broken.

The walk goes over the rules of a clause one after the other, and what it finds at one does not
depend on the others.  So a clause is accepted when each of its rules passes, and this can be asked
of one rule at a time.

## Main statements

* `Clause.not_breaks_of_accepted` — no rule is broken in an accepted statement.
* `Clause.validate_eq_ok_iff_passes` — a clause is accepted when its rules pass.
* `Clause.passes_nested_iff` — what is asked behind a nested rule.
-/

namespace WarehouseAdmin

/-! ## No rule is broken -/

theorem ListsInOrder.not_of_nil {α : Type} {P : List Nat → α → Prop} (h : ListsInOrder P [])
    (place : List Nat) (v : α) : ¬ P place v := by
  obtain ⟨found, values, -, mem⟩ := h
  obtain rfl := List.map_eq_nil_iff.mp values
  rw [← mem]
  exact List.not_mem_nil

namespace Clause

variable {clause : Clause}

theorem validate_eq_ok_iff : clause.validate = .ok () ↔ clause.violations = .ok [] := by
  rw [validate]
  split
  next misuse walk => simp [walk]
  next walk => simp [walk]
  next vs some walk => simpa [walk] using some

/-- **No rule is broken in an accepted statement.** -/
theorem not_breaks_of_accepted (accepted : clause.validate = .ok ()) {place : List Nat} {d : Duty}
    (reach : clause.duty.Reaches place d) {rule : Rule} (checked : rule ∈ d.rules)
    {kind : Violation.Kind} : ¬ d.clause.Breaks rule kind := by
  intro broken
  obtain ⟨i, get⟩ := List.mem_iff_getElem?.mp checked
  have lists : ListsInOrder clause.duty.Breach [] :=
    clause.findings_lists (validate_eq_ok_iff.mp accepted)
  exact lists.not_of_nil _ _ ⟨place, d, i, rule, kind, reach, get, broken, rfl, rfl⟩

end Clause

/-! ## Rule by rule

`Clause.Passes` also looks behind a nested rule: there the rules that it gives have to pass on the
inner clause, and the rules that the inner clause declares itself.  In contrast to
`Clause.not_breaks_of_accepted` everything here is an equivalence, so it also tells when a clause is
accepted.
-/

/-- Lists from all elements are empty together when each of them is. -/
theorem List.flatMapM_eq_ok_nil_iff {ε α β : Type} {f : α → Except ε (List β)} {xs : List α} :
    xs.flatMapM f = .ok [] ↔ ∀ x ∈ xs, f x = .ok [] := by
  induction xs with
  | nil => exact iff_of_true rfl (by simp)
  | cons x xs ih =>
      rw [List.flatMapM_cons, List.forall_mem_cons, ← ih]
      constructor
      · intro h
        obtain ⟨front, first, tail⟩ := Except.bind_eq_ok_iff.mp h
        obtain ⟨back, others, joined⟩ := Except.bind_eq_ok_iff.mp tail
        obtain ⟨rfl, rfl⟩ := List.append_eq_nil_iff.mp (Except.ok.inj joined)
        exact ⟨first, others⟩
      · rintro ⟨first, others⟩
        rw [first, others]
        rfl

namespace Clause

variable {clause : Clause} {path field : String} {rule : Rule} {rules given : List Rule}
  {fields : List String} {entry : Entry}

/-- Nothing is found at a rule on a clause that lies at `path`, nor behind the rule. -/
def Passes (clause : Clause) (path : String) (rule : Rule) : Prop :=
  clause.findings path [rule] = .ok []

/-- What is found at a rule does not depend on the other rules. -/
theorem findings_eq_nil_iff :
    clause.findings path rules = .ok [] ↔ ∀ rule ∈ rules, clause.Passes path rule := by
  obtain ⟨object, entries, own⟩ := clause
  simp only [Passes, findings, List.flatMapM_eq_ok_nil_iff, List.forall_mem_singleton]

/-- **A clause is accepted when its rules pass.** -/
theorem validate_eq_ok_iff_passes :
    clause.validate = .ok () ↔ ∀ rule ∈ clause.rules, clause.Passes clause.object rule := by
  rw [validate_eq_ok_iff, violations, findings_eq_nil_iff]

/-! ### Rules on one clause -/

/-- A rule that is not nested passes when it is not broken. -/
theorem passes_iff_of_breach {kind : Violation.Kind} (leaf : rule.breach? = some kind) :
    clause.Passes path rule ↔ rule.isBroken clause.object clause.entries = .ok false := by
  obtain ⟨object, entries, own⟩ := clause
  have alone : Passes ⟨object, entries, own⟩ path rule ↔
      rule.findings object entries path = .ok [] := by
    rw [Passes, findings, List.flatMapM_eq_ok_nil_iff, List.forall_mem_singleton]
    cases rule with
    | nested => cases leaf
    | required | validIdentifier | exactlyOneOf | atLeastOneOf | conflicting => rfl
  rw [alone, Rule.findings, leaf]
  cases rule.isBroken object entries with
  | error m => simp [Except.map]
  | ok isBroken => cases isBroken <;> simp [Except.map]

/-- How many fields are set decides about the rules that count. -/
theorem passes_exactlyOneOf_iff : clause.Passes path (.exactlyOneOf fields) ↔
    Entry.countPresent clause.object clause.entries fields = .ok 1 := by
  rw [passes_iff_of_breach rfl, Rule.isBroken, Except.map_eq_ok_iff]
  simp

theorem passes_atLeastOneOf_iff : clause.Passes path (.atLeastOneOf fields) ↔
    ∃ n, Entry.countPresent clause.object clause.entries fields = .ok n ∧ 0 < n := by
  rw [passes_iff_of_breach rfl, Rule.isBroken, Except.map_eq_ok_iff]
  simp [Nat.pos_iff_ne_zero]

theorem passes_conflicting_iff : clause.Passes path (.conflicting fields) ↔
    ∃ n, Entry.countPresent clause.object clause.entries fields = .ok n ∧ n ≤ 1 := by
  rw [passes_iff_of_breach rfl, Rule.isBroken, Except.map_eq_ok_iff]
  simp

/-- A rule about identifiers passes when they are acceptable. -/
theorem passes_validIdentifier_iff {optional : Bool} (first : clause.entry? field = some entry) :
    clause.Passes path (.validIdentifier field optional) ↔
      entry.value.identifiersFit clause.object field optional = .ok true := by
  have look : Entry.lookup clause.object clause.entries field = .ok entry.value :=
    Entry.lookup_eq_ok_iff.mpr ⟨entry, first, rfl⟩
  rw [passes_iff_of_breach rfl, Rule.isBroken, look]
  show Except.map (!·) (entry.value.identifiersFit clause.object field optional) = .ok false ↔ _
  rw [Except.map_eq_ok_iff]
  simp

/-! ### Nested rules -/

/-- Only the first field of a name is looked into, and only if it is set. -/
theorem innerFindings_of_first {object : String} {entries : List Entry}
    (first : entries.find? (·.field == field) = some entry) :
    Entry.innerFindings object path field given entries =
      if entry.value.isPresent then entry.value.findings object path field given else .ok [] := by
  induction entries with
  | nil => cases first
  | cons next entries ih =>
      obtain ⟨name, directive, value⟩ := next
      rw [Entry.innerFindings]
      by_cases same : name = field
      · rw [List.find?_cons_of_pos (by simpa using same)] at first
        obtain rfl := Option.some.inj first
        rw [if_pos same]
      · rw [List.find?_cons_of_neg (by simpa using same)] at first
        rw [if_neg same, ih first]

theorem passes_nested (first : clause.entry? field = some entry) :
    clause.Passes path (.nested field given) ↔
      (entry.value.isPresent = true →
        entry.value.findings clause.object (fieldPath path field) field given = .ok []) := by
  obtain ⟨object, entries, own⟩ := clause
  rw [Passes, findings, List.flatMapM_eq_ok_nil_iff, List.forall_mem_singleton]
  show Entry.innerFindings object (fieldPath path field) field given entries = .ok [] ↔ _
  rw [innerFindings_of_first first]
  cases entry.value.isPresent <;> simp

/-- **Behind a nested rule** the rules that it gives have to pass on the inner clause, and its own.
-/
theorem passes_nested_iff {inner : Clause} (first : clause.entry? field = some entry)
    (holds : entry.value = .nested inner) :
    clause.Passes path (.nested field given) ↔
      ∀ rule ∈ given ++ inner.rules, inner.Passes (fieldPath path field) rule := by
  rw [passes_nested first, holds, List.forall_mem_append, ← findings_eq_nil_iff,
    ← findings_eq_nil_iff]
  show (true = true → _) ↔ _
  rw [forall_prop_of_true rfl, Value.findings, Except.bind_eq_ok_iff]
  simp only [Except.map_eq_ok_iff, List.append_eq_nil_iff]
  constructor
  · rintro ⟨front, first, back, others, rfl, rfl⟩
    exact ⟨first, others⟩
  · rintro ⟨first, others⟩
    exact ⟨[], first, [], others, rfl, rfl⟩

end Clause

end WarehouseAdmin
