import WarehouseAdmin.Catalog.Recovery
import WarehouseAdmin.Proofs.Catalog.Failure
import Mathlib.Data.List.Basic

/-!
# Probes that were made

A recovery probes containers one after the other, and what it makes of a failure depends on its
findings only: the containers that were probed, in order, each with what its probe gave.  `Probes`
says that some findings are what happened between two states.  It says so for every prober, so the
state may be a catalog in a context, or a record of what was asked.

The two ways of probing differ in where they stop.  `ProbedUntil` says this for any condition that
ends the probing.  It leaves no choice: what is probed is fixed by what the probes give.

## Main statements

* `survey_eq`, `search_eq` — what the probing gives, by its findings.
-/

namespace WarehouseAdmin.Recovery

/-- A container that was probed, and what the probe gave. -/
structure Finding where
  container : Container
  outcome : Except Failure Unit

/-- The failure of the probe, if it failed. -/
def Finding.failure? (finding : Finding) : Option Failure :=
  match finding.outcome with
  | .ok () => none
  | .error failure => some failure

theorem Finding.failure?_eq_some_iff {finding : Finding} {failure : Failure} :
    finding.failure? = some failure ↔ finding.outcome = .error failure := by
  rw [failure?]
  cases finding.outcome with
  | ok => simp
  | error failure => simp

theorem Finding.isUninterrupted_iff {finding : Finding} :
    IsUninterrupted finding.outcome ↔ finding.failure?.any Failure.isInterruption = false := by
  rw [Option.any_eq_false]
  simp only [failure?_eq_some_iff, IsUninterrupted]

/-- The failures of some probes, in order. -/
def failures (findings : List Finding) : List Failure :=
  findings.filterMap Finding.failure?

/-- The first failure of some probes that is an interruption. -/
def interruption? (findings : List Finding) : Option Failure :=
  (failures findings).find? Failure.isInterruption

variable {σ : Type} {probe : Prober σ} {s s' : σ} {container : Container}
  {containers : List Container}
  {failure : Failure} {finding : Finding} {findings : List Finding} {ends : Failure → Bool}

/-- Probing the containers of the findings, in order, gives the findings and leads from one state to
another. -/
inductive Probes (probe : Prober σ) : σ → List Finding → σ → Prop
  | done {s : σ} : Probes probe s [] s
  | next {s s' s'' : σ} {finding : Finding} {findings : List Finding}
      (first : probe finding.container s = (finding.outcome, s'))
      (others : Probes probe s' findings s'') : Probes probe s (finding :: findings) s''

/-- Whatever every single probe keeps is kept from the first probe to the last. -/
theorem Probes.keeps {R : σ → σ → Prop} (refl : ∀ s, R s s)
    (trans : ∀ {s t u}, R s t → R t u → R s u)
    (step : ∀ container s, R s (probe container s).2) (probes : Probes probe s findings s') :
      R s s' := by
  induction probes with
  | done => exact refl _
  | @next s s' s'' finding findings first _ ih =>
      have kept := step finding.container s
      rw [first] at kept
      exact trans kept ih

/-- The containers are probed in order, up to and including the first whose probe fails in a way
that ends the probing. -/
structure ProbedUntil (ends : Failure → Bool) (containers : List Container)
    (findings : List Finding) : Prop where
  /-- The containers are probed in order, each once. -/
  inOrder : findings.map Finding.container <+: containers
  /-- No probe but the last one ends the probing. -/
  goesOn : ∀ finding ∈ findings.dropLast, finding.failure?.any ends = false
  /-- If no probe ends the probing, all containers are probed. -/
  complete : (∀ finding ∈ findings, finding.failure?.any ends = false) →
    findings.map Finding.container = containers

namespace ProbedUntil

theorem nil : ProbedUntil ends [] [] :=
  ⟨by simp, by simp, by simp⟩

/-- A probe that ends the probing. -/
theorem last (h : finding.failure?.any ends = true) :
    ProbedUntil ends (finding.container :: containers) [finding] := by
  refine ⟨by simp, by simp, ?_⟩
  intro none
  simp [none finding (by simp)] at h

/-- A probe that does not end the probing. -/
theorem cons (h : finding.failure?.any ends = false) (rest : ProbedUntil ends containers findings) :
    ProbedUntil ends (finding.container :: containers) (finding :: findings) := by
  refine ⟨?_, ?_, ?_⟩
  · simpa using rest.inOrder
  · cases findings with
    | nil => simp
    | cons next others =>
        rw [List.dropLast_cons_cons, List.forall_mem_cons]
        exact ⟨h, rest.goesOn⟩
  · intro none
    rw [List.map_cons, rest.complete (List.forall_mem_cons.mp none).2]

theorem eq_nil (h : ProbedUntil ends [] findings) : findings = [] := by
  simpa using h.inOrder

end ProbedUntil

/-! ## What the probing gives -/

/-- A failure that ends a search: an interruption, or the news that a container is gone. -/
def isConclusive (failure : Failure) : Bool :=
  failure.isInterruption || failure.is .notFound

theorem any_isInterruption_of_any_isConclusive {failure? : Option Failure}
    (h : failure?.any isConclusive = false) : failure?.any Failure.isInterruption = false := by
  rw [Option.any_eq_false] at h ⊢
  intro failure failed
  exact (Bool.or_eq_false_iff.mp (h failure failed)).1

/-- The outcome of a probing, which is the interruption if there was one. -/
def unlessInterrupted {α : Type} (findings : List Finding) (result : α) : Except Failure α :=
  match interruption? findings with
  | some interruption => .error interruption
  | none => .ok result

theorem mem_failures_iff : failure ∈ failures findings ↔
    ∃ finding ∈ findings, finding.outcome = .error failure := by
  simp only [failures, List.mem_filterMap, Finding.failure?_eq_some_iff]

theorem interruption?_eq_none_iff :
    interruption? findings = none ↔ ∀ finding ∈ findings, IsUninterrupted finding.outcome := by
  rw [interruption?, List.find?_eq_none]
  simp only [mem_failures_iff, IsUninterrupted, Bool.not_eq_true]
  grind

theorem interruption?_append_of_uninterrupted {others : List Finding}
    (h : ∀ finding ∈ findings, IsUninterrupted finding.outcome) :
    interruption? (findings ++ others) = interruption? others := by
  have none : (failures findings).find? Failure.isInterruption = none :=
    interruption?_eq_none_iff.mpr h
  rw [interruption?, failures, List.filterMap_append, List.find?_append, ← failures, none,
    Option.none_or]
  rfl

/-- If only the last probe can have been interrupted, it tells the interruption. -/
theorem interruption?_eq_some_iff
    (goesOn : ∀ finding ∈ findings.dropLast, IsUninterrupted finding.outcome)
    (h : failure.isInterruption = true) :
    interruption? findings = some failure ↔
      (findings.map Finding.outcome).getLast? = some (.error failure) := by
  rcases List.eq_nil_or_concat' findings with rfl | ⟨front, last, rfl⟩
  · simp [interruption?, failures]
  · rw [List.dropLast_concat] at goesOn
    rw [interruption?_append_of_uninterrupted goesOn, List.map_append, List.map_singleton,
      List.getLast?_concat, Option.some.injEq, ← Finding.failure?_eq_some_iff]
    cases failed : last.failure? with
    | none => simp [interruption?, failures, failed]
    | some other =>
        cases interrupted : other.isInterruption with
        | true => simp [interruption?, failures, failed, interrupted]
        | false =>
            have ne : other ≠ failure := by
              rintro rfl
              simp [interrupted] at h
            simp [interruption?, failures, failed, interrupted, ne]

theorem failures_cons (finding : Finding) (findings : List Finding) :
    failures (finding :: findings) = finding.failure?.toList ++ failures findings := by
  cases failed : finding.failure? with
  | none => simp [failures, failed]
  | some failure => simp [failures, failed]

theorem interruption?_cons (h : finding.failure?.any Failure.isInterruption = false) :
    interruption? (finding :: findings) = interruption? findings := by
  rw [interruption?, failures_cons]
  cases failed : finding.failure? with
  | none => rfl
  | some failure =>
      rw [failed, Option.any_some] at h
      simp [interruption?, h]

theorem unlessInterrupted_of_some {α : Type} {result : α}
    (h : interruption? findings = some failure) :
      unlessInterrupted findings result = .error failure := by
  rw [unlessInterrupted, h]

theorem unlessInterrupted_of_none {α : Type} {result : α} (h : interruption? findings = none) :
    unlessInterrupted findings result = .ok result := by
  rw [unlessInterrupted, h]

theorem unlessInterrupted_cons {α β : Type}
    (h : finding.failure?.any Failure.isInterruption = false) (f : α → β) (result : α) :
    unlessInterrupted (finding :: findings) (f result) =
      (unlessInterrupted findings result).map f := by
  rw [unlessInterrupted, unlessInterrupted, interruption?_cons h]
  cases interruption? findings with
  | none => rfl
  | some interruption => rfl

theorem unlessInterrupted_single {α : Type} (failed : finding.failure? = some failure)
    (result : α) :
    unlessInterrupted [finding] result =
      if failure.isInterruption then .error failure else .ok result := by
  rw [unlessInterrupted, interruption?, failures_cons, failed]
  cases interrupted : failure.isInterruption with
  | true => simp [failures, interrupted]
  | false => simp [failures, interrupted]

section Steps

variable {outcome : Except Failure Unit}

theorem survey_cons_of_interrupted (first : probe container s = (.error failure, s'))
    (h : failure.isInterruption = true) :
    survey probe (container :: containers) s = (.error failure, s') := by
  simp only [survey, bind, StateT.bind, first, h]
  rfl

theorem survey_cons (first : probe container s = (outcome, s'))
    (h : (Finding.mk container outcome).failure?.any Failure.isInterruption = false) :
    survey probe (container :: containers) s =
      ((survey probe containers s').1.map ((Finding.mk container outcome).failure? :: ·),
        (survey probe containers s').2) := by
  cases outcome with
  | ok =>
      simp only [survey, bind, StateT.bind, first]
      rfl
  | error failure =>
      have other : failure.isInterruption = false := h
      simp only [survey, bind, StateT.bind, first, other]
      rfl

theorem search_cons_of_conclusive (first : probe container s = (.error failure, s'))
    (h : isConclusive failure = true) :
    search probe (container :: containers) s =
      (if failure.isInterruption then .error failure else .ok [failure], s') := by
  simp only [search, bind, StateT.bind, first]
  cases interrupted : failure.isInterruption with
  | true => rfl
  | false =>
      have gone : failure.is .notFound = true := by simpa [isConclusive, interrupted] using h
      simp only [gone]
      rfl

theorem search_cons (first : probe container s = (outcome, s'))
    (h : (Finding.mk container outcome).failure?.any isConclusive = false) :
    search probe (container :: containers) s =
      ((search probe containers s').1.map ((Finding.mk container outcome).failure?.toList ++ ·),
        (search probe containers s').2) := by
  cases outcome with
  | ok =>
      simp only [search, bind, StateT.bind, first]
      rcases search probe containers s' with ⟨result, s''⟩
      cases result with
      | error interruption => rfl
      | ok failures => rfl
  | error failure =>
      obtain ⟨other, present⟩ := Bool.or_eq_false_iff.mp h
      simp only [search, bind, StateT.bind, first, other, present]
      rfl

end Steps

/-- **A survey** probes all containers, unless it is interrupted. -/
theorem survey_eq (probe : Prober σ) (containers : List Container) (s : σ) :
    ∃ findings, Probes probe s findings (survey probe containers s).2 ∧
      ProbedUntil Failure.isInterruption containers findings ∧
      (survey probe containers s).1 =
        unlessInterrupted findings (findings.map Finding.failure?) := by
  induction containers generalizing s with
  | nil => exact ⟨[], .done, .nil, rfl⟩
  | cons container containers ih =>
      rcases first : probe container s with ⟨outcome, s'⟩
      let finding : Finding := ⟨container, outcome⟩
      cases ended : finding.failure?.any Failure.isInterruption with
      | true =>
          obtain ⟨failure, failed, h⟩ := (Option.any_eq_true _ _).mp ended
          obtain rfl := Finding.failure?_eq_some_iff.mp failed
          rw [survey_cons_of_interrupted first h]
          refine ⟨[finding], .next first .done, .last ended, ?_⟩
          rw [unlessInterrupted_single failed, if_pos h]
      | false =>
          obtain ⟨findings, probes, upTo, result⟩ := ih s'
          rw [survey_cons first ended]
          refine ⟨finding :: findings, .next first probes, .cons ended upTo, ?_⟩
          rw [result, List.map_cons, ← unlessInterrupted_cons ended]

/-- **A search** probes containers up to the first that is gone, unless it is interrupted. -/
theorem search_eq (probe : Prober σ) (containers : List Container) (s : σ) :
    ∃ findings, Probes probe s findings (search probe containers s).2 ∧
      ProbedUntil isConclusive containers findings ∧
      (search probe containers s).1 = unlessInterrupted findings (failures findings) := by
  induction containers generalizing s with
  | nil => exact ⟨[], .done, .nil, rfl⟩
  | cons container containers ih =>
      rcases first : probe container s with ⟨outcome, s'⟩
      let finding : Finding := ⟨container, outcome⟩
      cases ended : finding.failure?.any isConclusive with
      | true =>
          obtain ⟨failure, failed, h⟩ := (Option.any_eq_true _ _).mp ended
          obtain rfl := Finding.failure?_eq_some_iff.mp failed
          rw [search_cons_of_conclusive first h]
          refine ⟨[finding], .next first .done, .last ended, ?_⟩
          rw [unlessInterrupted_single failed]
          rfl
      | false =>
          obtain ⟨findings, probes, upTo, result⟩ := ih s'
          rw [search_cons first ended]
          refine ⟨finding :: findings, .next first probes, .cons ended upTo, ?_⟩
          rw [result, failures_cons,
            ← unlessInterrupted_cons (any_isInterruption_of_any_isConclusive ended)]

end WarehouseAdmin.Recovery
