import WarehouseAdmin.Check.Walk
import WarehouseAdmin.Proofs.Outcome
import WarehouseAdmin.Testing.Expectation
import Mathlib.Data.List.Basic

/-!
# Expected violations

A trial describes every violation that it expects by its kind and one of the fields that it is
about.  The violations of a rejection are those that are expected if they can be matched with the
descriptions one to one.

The check does not look for a matching.  It compares the numbers, and looks for each description
among all violations.  A violation that one description fits can be found again for another one, and
then some other violation has none.  Where no violation fits two of the descriptions this cannot
happen (`Matched.of_apart`): the violations that are found are as many as the descriptions, so they
are all of them.

## Main statements

* `Matched.of_apart` — descriptions that are found, each for another violation, are a matching.
* `Rejection.isAsExpected_is_checked` — what the check of a rejection says.
* `Rejection.unexpected_violation_passes` — a violation that no one expects.
-/

namespace WarehouseAdmin

variable {v : Violation} {vs : List Violation} {expected : List (Violation.Kind × String)}

/-- A violation is as described: of that kind, and about that field among others. -/
def Violation.Meets (v : Violation) (description : Violation.Kind × String) : Prop :=
  v.kind = description.1 ∧ description.2 ∈ v.fields

instance (v : Violation) (description : Violation.Kind × String) :
    Decidable (v.Meets description) :=
  inferInstanceAs (Decidable (_ ∧ _))

/-- The violations and the descriptions are matched one to one, in some order of the violations. -/
def Matched (expected : List (Violation.Kind × String)) (vs : List Violation) : Prop :=
  ∃ ordered, ordered.Perm vs ∧ List.Forall₂ Violation.Meets ordered expected

/-- There are as many violations as descriptions, and each description fits one of them. -/
structure Covered (expected : List (Violation.Kind × String)) (vs : List Violation) : Prop where
  length : vs.length = expected.length
  found : ∀ description ∈ expected, ∃ v ∈ vs, v.Meets description

/-- No violation fits two of the descriptions. -/
def Apart (expected : List (Violation.Kind × String)) (vs : List Violation) : Prop :=
  expected.Pairwise fun description other => ∀ v ∈ vs, ¬ (v.Meets description ∧ v.Meets other)

namespace Matched

theorem covered (h : Matched expected vs) : Covered expected vs := by
  obtain ⟨ordered, perm, meets⟩ := h
  refine ⟨perm.length_eq.symm.trans meets.length_eq, fun description mem => ?_⟩
  obtain ⟨v, there, fits⟩ := exists_rel_of_mem meets mem
  exact ⟨v, perm.mem_iff.mp there, fits⟩

/-- No violation is left unexpected. -/
theorem exists_description (h : Matched expected vs) (mem : v ∈ vs) :
    ∃ description ∈ expected, v.Meets description := by
  obtain ⟨ordered, perm, meets⟩ := h
  exact exists_rel_of_mem_left meets (perm.mem_iff.mpr mem)

/-- **Descriptions that are found apart from each other are matched.** -/
theorem of_apart (covered : Covered expected vs) (apart : Apart expected vs) :
    Matched expected vs := by
  induction expected generalizing vs with
  | nil =>
      obtain rfl := List.eq_nil_of_length_eq_zero covered.length
      exact ⟨[], .nil, .nil⟩
  | cons description expected ih =>
      obtain ⟨⟨v, mem, meets⟩, others⟩ := List.forall_mem_cons.mp covered.found
      obtain ⟨here, behind⟩ := List.pairwise_cons.mp apart
      -- The violation found for the first description is none of those found for the others.
      have rest : Covered expected (vs.erase v) := by
        refine ⟨?_, fun other otherMem => ?_⟩
        · rw [List.length_erase_of_mem mem, covered.length, List.length_cons, Nat.add_sub_cancel]
        · obtain ⟨v', mem', meets'⟩ := others other otherMem
          have different : v' ≠ v := by
            rintro rfl
            exact here other otherMem v' mem ⟨meets, meets'⟩
          exact ⟨v', (List.mem_erase_of_ne different).mpr mem', meets'⟩
      obtain ⟨ordered, perm, matched⟩ :=
        ih rest (behind.imp fun h v' mem' => h v' (List.mem_of_mem_erase mem'))
      exact ⟨v :: ordered, (perm.cons v).trans (List.perm_cons_erase mem).symm, .cons meets matched⟩

end Matched

theorem Violation.occurs_iff {kind : Violation.Kind} {field : String} :
    Violation.occurs kind field vs = true ↔ ∃ v ∈ vs, v.Meets (kind, field) := by
  simp [occurs, names, Meets]

namespace Rejection

theorem isAsExpected_iff (rejection : Rejection) :
    rejection.isAsExpected expected = true ↔
      ∃ vs, rejection = .violations vs ∧ Covered expected vs := by
  cases rejection with
  | noClause | misuse => simp [isAsExpected]
  | violations vs =>
      rw [isAsExpected, Bool.and_eq_true, decide_eq_true_iff, List.all_eq_true]
      constructor
      · rintro ⟨length, found⟩
        exact ⟨vs, rfl, length, fun (kind, field) mem =>
          Violation.occurs_iff.mp (found (kind, field) mem)⟩
      · rintro ⟨vs, ⟨⟩, covered⟩
        exact ⟨covered.length, fun (kind, field) mem =>
          Violation.occurs_iff.mpr (covered.found (kind, field) mem)⟩

/-- What it says of a rejection that it is as expected. -/
structure IsChecked (expected : List (Violation.Kind × String)) (rejection : Rejection) : Prop where
  /-- The rejection is for as many violations as are expected, and every description fits one of
  them. -/
  covers : rejection.isAsExpected expected = true ↔
    ∃ vs, rejection = .violations vs ∧ Covered expected vs
  /-- No rejection is refused whose violations are matched with the descriptions one to one. -/
  of_matched : ∀ vs, rejection = .violations vs → Matched expected vs →
    rejection.isAsExpected expected = true
  /-- Where no violation fits two of the descriptions, only these rejections are accepted. -/
  matched_iff : ∀ vs, rejection = .violations vs → Apart expected vs →
    (rejection.isAsExpected expected = true ↔ Matched expected vs)

/-- **Counting and finding is matching** as long as no violation is found twice. -/
theorem isAsExpected_is_checked (expected : List (Violation.Kind × String))
    (rejection : Rejection) :
    rejection.IsChecked expected := by
  have covers : rejection.isAsExpected expected = true ↔
      ∃ vs, rejection = .violations vs ∧ Covered expected vs := rejection.isAsExpected_iff
  refine ⟨covers, ?_, ?_⟩
  · rintro vs rfl matched
    exact covers.mpr ⟨vs, rfl, matched.covered⟩
  · rintro vs rfl apart
    rw [covers]
    constructor
    · rintro ⟨vs, ⟨⟩, covered⟩
      exact .of_apart covered apart
    · intro matched
      exact ⟨vs, rfl, matched.covered⟩

/-- Two fields are missing, and a rejection for both is as expected though one field is expected
twice and the other not at all. -/
theorem unexpected_violation_passes :
    let clause : Clause := ⟨"Options", [⟨"a", .keyword "A", .absent⟩, ⟨"b", .keyword "B", .absent⟩],
      [.required "a", .required "b"]⟩
    let vs : List Violation := [⟨.required, "Options", ["a"]⟩, ⟨.required, "Options", ["b"]⟩]
    let expected := [(Violation.Kind.required, "a"), (.required, "a")]
    clause.validate = .error (.violations vs) ∧
      (Rejection.violations vs).isAsExpected expected = true ∧
      (∀ description ∈ expected, ¬ Violation.Meets ⟨.required, "Options", ["b"]⟩ description) ∧
      ¬ Matched expected vs := by
  intro clause vs expected
  have unexpected : ∀ description ∈ expected,
      ¬ Violation.Meets ⟨.required, "Options", ["b"]⟩ description := by
    decide
  refine ⟨by decide, by decide, unexpected, fun matched => ?_⟩
  obtain ⟨description, mem, meets⟩ :=
    matched.exists_description (v := ⟨.required, "Options", ["b"]⟩) (by simp [vs])
  exact unexpected description mem meets

end Rejection

end WarehouseAdmin
