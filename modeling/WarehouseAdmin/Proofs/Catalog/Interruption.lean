import WarehouseAdmin.Catalog.Operation
import WarehouseAdmin.Proofs.Catalog.Recovery
import WarehouseAdmin.Proofs.Operation.Interruption

/-!
# Interruptions of operations that recover

The calls of a drop or a lookup are its own call and then the probes, and they share a context.
Whatever interrupts one of them ends the operation: no later call is made, and the interruption is
the result.  Nothing is concluded from the calls before it, also not that the object is gone because
its nearest container is.

## Main statements

* `ScriptedCatalog.interruption_dominates` — drops and lookups, on the clock.
-/

namespace WarehouseAdmin

namespace Recovery

variable {α σ : Type} {probe : Prober σ} {id : Identifier} {s : σ}
  {outcome result : Except Failure α}
  {failure interruption : Failure} {findings : List Finding} {ambiguous ends : Failure → Bool}

/-- The probes that follow a call with this outcome.  There are none unless the call failed in an
ambiguous way; then the containers are probed, nearest first, until a failure ends the probing. -/
structure Follows (ambiguous ends : Failure → Bool) (id : Identifier) (outcome : Except Failure α)
    (findings : List Finding) : Prop where
  unprobed : (∀ failure, outcome = .error failure → ambiguous failure = false) → findings = []
  probed : ∀ failure, outcome = .error failure → ambiguous failure = true →
    ProbedUntil ends id.ancestors findings

theorem Follows.of_plain (h : ∀ failure, outcome = .error failure → ambiguous failure = false) :
    Follows ambiguous ends id outcome [] where
  unprobed _ := rfl
  probed := by
    intro failure failed is
    simp [h failure failed] at is

theorem Follows.of_ambiguous (h : ambiguous failure = true)
    (probed : ProbedUntil ends id.ancestors findings) :
    Follows (α := α) ambiguous ends id (.error failure) findings where
  unprobed := by simp [h]
  probed := by
    rintro _ ⟨⟩ -
    exact probed

/-- The outcomes of the calls of an operation: its own call, and then the probes. -/
def outcomes (outcome : Except Failure α) (findings : List Finding) : List (Except Failure Unit) :=
  outcome.map (fun _ => ()) :: findings.map Finding.outcome

/-- A recovery goes on behind uninterrupted calls only, and its result is an interruption if the
last call was interrupted. -/
structure KeepsInterruption (outcome : Except Failure α) (findings : List Finding)
    (result : Except Failure α) : Prop where
  goesOn : ∀ answer ∈ (outcomes outcome findings).dropLast, IsUninterrupted answer
  last : ∀ interruption, interruption.isInterruption = true →
    (result = .error interruption ↔
      (outcomes outcome findings).getLast? = some (.error interruption))

/-- Without a probe, the result is the outcome of the call. -/
theorem KeepsInterruption.of_nil (outcome : Except Failure α) :
    KeepsInterruption outcome [] outcome where
  goesOn := by simp [outcomes]
  last := by
    intro interruption _
    cases outcome with
    | ok found => simp [outcomes, Except.map]
    | error failure => simp [outcomes, Except.map]

theorem KeepsInterruption.of_findings (other : failure.isInterruption = false)
    (goesOn : ∀ finding ∈ findings.dropLast, IsUninterrupted finding.outcome)
    (last : ∀ interruption, interruption.isInterruption = true →
      (result = .error interruption ↔ interruption? findings = some interruption)) :
    KeepsInterruption (.error failure) findings result where
  goesOn := by
    cases findings with
    | nil => simp [outcomes]
    | cons first others =>
        rw [outcomes, List.map_cons, List.dropLast_cons_cons, ← List.map_cons, ← List.map_dropLast,
          List.forall_mem_cons, List.forall_mem_map]
        refine ⟨?_, goesOn⟩
        rintro _ ⟨⟩
        exact other
  last := by
    intro interruption h
    rw [last interruption h, interruption?_eq_some_iff goesOn h, outcomes, List.getLast?_cons]
    cases (findings.map Finding.outcome).getLast? with
    | some outcome => rfl
    | none =>
        refine iff_of_false nofun ?_
        rintro ⟨⟩
        simp [other] at h

theorem dropResult_eq_interruption_iff (other : failure.isInterruption = false)
    (h : interruption.isInterruption = true) :
    dropResult failure findings = .error interruption ↔
      interruption? findings = some interruption := by
  cases interrupted : interruption? findings with
  | some first => simp [dropResult_of_some interrupted]
  | none =>
      refine iff_of_false ?_ nofun
      rw [dropResult_of_none interrupted]
      split
      · nofun
      · rintro ⟨⟩
        simp [Failure.isInterruption_join other] at h

theorem isInterruption_eq_false_of_isAmbiguous (h : isAmbiguous failure = true) :
    failure.isInterruption = false := by
  rw [isAmbiguous, Bool.or_eq_true] at h
  rcases h with h | h
  · exact Failure.isInterruption_eq_false_of_is h (by simp) (by simp)
  · exact Failure.isInterruption_eq_false_of_is h (by simp) (by simp)

theorem lookupFailure_eq_interruption_iff (other : failure.isInterruption = false)
    (h : interruption.isInterruption = true) :
    lookupFailure failure findings = interruption ↔ interruption? findings = some interruption := by
  cases interrupted : interruption? findings with
  | some first => simp [lookupFailure, interrupted]
  | none =>
      refine iff_of_false ?_ (by simp)
      rw [lookupFailure, interrupted, Option.getD_none]
      rintro rfl
      simp [Failure.isInterruption_join other] at h

theorem exists_keepsInterruption_drop (probe : Prober σ) (id : Identifier)
    (outcome : Except Failure Unit) (s : σ) :
    ∃ findings, Probes probe s findings (drop probe id outcome s).2 ∧
      Follows (·.is .notAuthorized) Failure.isInterruption id outcome findings ∧
      KeepsInterruption outcome findings (drop probe id outcome s).1 := by
  cases outcome with
  | ok => exact ⟨[], .done, .of_plain nofun, .of_nil (.ok ())⟩
  | error failure =>
      cases ambiguous : failure.is .notAuthorized with
      | false =>
          rw [drop_of_other ambiguous]
          exact ⟨[], .done, .of_plain (by simp [ambiguous]), .of_nil (.error failure)⟩
      | true =>
          obtain ⟨findings, probes, probed, result⟩ := exists_findings_drop probe id s ambiguous
          have other : failure.isInterruption = false :=
            Failure.isInterruption_eq_false_of_is ambiguous nofun nofun
          rw [result]
          refine ⟨findings, probes, .of_ambiguous ambiguous probed, .of_findings other ?_ ?_⟩
          · intro finding mem
            exact Finding.isUninterrupted_iff.mpr (probed.goesOn finding mem)
          · intro interruption
            exact dropResult_eq_interruption_iff other

theorem exists_keepsInterruption_lookup (probe : Prober σ) (id : Identifier)
    (outcome : Except Failure α) (s : σ) :
    ∃ findings, Probes probe s findings (lookup probe id outcome s).2 ∧
      Follows isAmbiguous isConclusive id outcome findings ∧
      KeepsInterruption outcome findings (lookup probe id outcome s).1 := by
  cases outcome with
  | ok found => exact ⟨[], .done, .of_plain nofun, .of_nil (.ok found)⟩
  | error failure =>
      cases ambiguous : isAmbiguous failure with
      | false =>
          rw [lookup_of_plain ambiguous]
          exact ⟨[], .done, .of_plain (by simp [ambiguous]), .of_nil (.error failure)⟩
      | true =>
          obtain ⟨findings, probes, probed, result⟩ :=
            exists_findings_lookup (α := α) probe id s ambiguous
          have other := isInterruption_eq_false_of_isAmbiguous ambiguous
          rw [result]
          refine ⟨findings, probes, .of_ambiguous ambiguous probed, .of_findings other ?_ ?_⟩
          · intro finding mem
            exact Finding.isUninterrupted_iff.mpr
              (any_isInterruption_of_any_isConclusive (probed.goesOn finding mem))
          · intro interruption h
            rw [Except.error.injEq]
            exact lookupFailure_eq_interruption_iff other h

end Recovery

namespace ScriptedCatalog

variable {α : Type} {catalog : ScriptedCatalog} {journal journal' : Journal}
  {findings : List Recovery.Finding}

/-- The call that a probe makes. -/
def probeCall (catalog : ScriptedCatalog) (container : Container) : Call Unit :=
  catalog.call container (catalog.registry.probe container)

theorem outcomes_probes (h : Recovery.Probes catalog.probe journal findings journal') :
    journal.context.outcomes (findings.map fun finding => catalog.probeCall finding.container) =
      findings.map Recovery.Finding.outcome := by
  induction h with
  | done => rfl
  | @next journal journal' journal'' finding findings first others ih =>
      have answered :
          (journal.context.run (catalog.probeCall finding.container)).1 = finding.outcome :=
        congrArg Prod.fst first
      have after :
          (journal.context.run (catalog.probeCall finding.container)).2 = journal'.context :=
        congrArg (fun run => run.2.context) first
      rw [List.map_cons, Context.outcomes, answered, after, ih, List.map_cons]

/-- The first interruption of the calls of an operation decides it.  The calls are its own call, and
behind it the probes that follow when it fails in an ambiguous way. -/
def DecidedByFirstInterruption (catalog : ScriptedCatalog) (ambiguous ends : Failure → Bool)
    (id : Identifier) (journal : Journal) (call : Call α)
    (operation : StateM Journal (Except Failure α)) : Prop :=
  ∃ findings,
    Recovery.Probes catalog.probe (Journal.perform call journal).2 findings (operation journal).2 ∧
    Recovery.Follows ambiguous ends id (journal.context.run call).1 findings ∧
    journal.context.DecidedByFirstInterruption
      (call.forget :: findings.map fun finding => catalog.probeCall finding.container)
      (operation journal).1

theorem DecidedByFirstInterruption.of_recovery {ambiguous ends : Failure → Bool} {id : Identifier}
    {call : Call α} {operation : StateM Journal (Except Failure α)}
    (h : ∃ findings, Recovery.Probes catalog.probe (Journal.perform call journal).2 findings
        (operation journal).2 ∧
      Recovery.Follows ambiguous ends id (journal.context.run call).1 findings ∧
      Recovery.KeepsInterruption (journal.context.run call).1 findings (operation journal).1) :
    catalog.DecidedByFirstInterruption ambiguous ends id journal call operation := by
  obtain ⟨findings, probes, follows, keeps⟩ := h
  have outcomes : journal.context.outcomes
      (call.forget :: findings.map fun finding => catalog.probeCall finding.container) =
      Recovery.outcomes (journal.context.run call).1 findings := by
    rw [Context.outcomes, Context.run_forget]
    exact congrArg (_ :: ·) (outcomes_probes probes)
  refine ⟨findings, probes, follows, .of_outcomes (by simp) ?_ ?_⟩
  · rw [outcomes]
    exact keeps.goesOn
  · rw [outcomes]
    exact keeps.last

/-- **The first interruption dominates.**  If the call of a drop or a lookup is interrupted, or one
of the probes behind it, the operation ends with this interruption, whatever the calls before it
have said; and it ends with an interruption in no other way. -/
theorem interruption_dominates (catalog : ScriptedCatalog) (id : Identifier) (journal : Journal) :
    (∀ call : Call Unit,
      catalog.DecidedByFirstInterruption (·.is .notAuthorized) Failure.isInterruption
        id journal call
        (catalog.drop id call)) ∧
    ∀ {α : Type} (call : Call α),
      catalog.DecidedByFirstInterruption Recovery.isAmbiguous Recovery.isConclusive id journal call
        (catalog.lookup id call) := by
  constructor
  · intro call
    exact .of_recovery (Recovery.exists_keepsInterruption_drop catalog.probe id _ _)
  · intro α call
    exact .of_recovery (Recovery.exists_keepsInterruption_lookup catalog.probe id _ _)

end ScriptedCatalog

end WarehouseAdmin
