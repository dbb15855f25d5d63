import WarehouseAdmin.Proofs.Catalog.Probing

/-!
# What recoveries give

A drop counts as done only when its call succeeded or a probe has shown that the nearest container
is gone; a lookup succeeds only when its call did.  Any other result is a failure, and the two
predicates `IsDropResult` and `IsLookupResult` say which one, and what is probed.  They speak of the
findings, so they hold of every catalog: see `Probes`.

A failure counts by what it *is*.  One that was put together from several causes is of no kind, so
it is never taken for the news that a container is gone, whatever its causes say.

## Main statements

* `drop_reports_done_only_if_gone` — drops.
* `lookup_never_fabricates` — lookups.
-/

namespace WarehouseAdmin

theorem Identifier.ancestors_eq_nil_iff {id : Identifier} :
    id.ancestors = [] ↔ id.level = .account := by
  cases id with
  | account => simp [ancestors, level]
  | database | schema | signature => simp [ancestors, level]

namespace Recovery

variable {σ : Type} {probe : Prober σ} {id : Identifier} {s : σ} {failure : Failure}
  {findings : List Finding} {ends : Failure → Bool}

/-- The nearest container was probed, and it is gone. -/
def NearestGone (id : Identifier) (findings : List Finding) : Prop :=
  ∃ nearest gone, id.ancestors.head? = some nearest ∧
    findings.head? = some ⟨nearest, .error gone⟩ ∧ gone.is .notFound = true

/-- What a drop comes to when its call had this outcome and the probes gave these findings. -/
structure IsDropResult (id : Identifier) (outcome : Except Failure Unit) (findings : List Finding)
    (result : Except Failure Unit) : Prop where
  /-- Nothing is probed after a success, after a failure of another kind, and for an object that
  lies directly in the account. -/
  unprobed : (∀ failure, outcome = .error failure → failure.is .notAuthorized = true →
    id.level = .account) → findings = []
  /-- Otherwise every container is probed, nearest first, until a probe is interrupted. -/
  probed : ∀ failure, outcome = .error failure → failure.is .notAuthorized = true →
    ProbedUntil Failure.isInterruption id.ancestors findings
  /-- The drop is done if its call succeeded, or if the nearest container is gone and no probe was
  interrupted. -/
  done_iff : result = .ok () ↔ outcome = .ok () ∨
    ∃ failure, outcome = .error failure ∧ failure.is .notAuthorized = true ∧
      NearestGone id findings ∧ ∀ finding ∈ findings, IsUninterrupted finding.outcome
  /-- A failure of another kind, or of an object that lies directly in the account, is returned as
  it is. -/
  unchanged : ∀ failure, outcome = .error failure →
    failure.is .notAuthorized = false ∨ id.level = .account → result = .error failure
  /-- The first interruption of a probe is returned as it is. -/
  interrupted : ∀ interruption, interruption? findings = some interruption →
    result = .error interruption
  /-- Otherwise a drop that is not done fails with the failures of all probes behind its own. -/
  joined : ∀ failure, outcome = .error failure → interruption? findings = none → result ≠ .ok () →
    result = .error (failure.join (failures findings))
  /-- It fails with its own failure alone when every probe succeeded. -/
  alone : ∀ failure, outcome = .error failure → (∀ finding ∈ findings, finding.outcome = .ok ()) →
    result = .error failure

/-- What a lookup comes to when its call had this outcome and the probes gave these findings. -/
structure IsLookupResult {α : Type} (id : Identifier) (outcome : Except Failure α)
    (findings : List Finding) (result : Except Failure α) : Prop where
  /-- The lookup succeeds if its call did. -/
  found_iff : ∀ found, result = .ok found ↔ outcome = .ok found
  /-- Nothing is probed after a success or after a failure that says what is wrong. -/
  unprobed : (∀ failure, outcome = .error failure → isAmbiguous failure = false) → findings = []
  /-- A failure that says what is wrong is returned as it is. -/
  unchanged : ∀ failure, outcome = .error failure → isAmbiguous failure = false →
    result = .error failure
  /-- Otherwise containers are probed, nearest first, until one is gone or a probe is interrupted.
  -/
  probed : ∀ failure, outcome = .error failure → isAmbiguous failure = true →
    ProbedUntil isConclusive id.ancestors findings
  /-- An interruption of a probe is returned as it is. -/
  interrupted : ∀ interruption, interruption? findings = some interruption →
    result = .error interruption
  /-- Otherwise the lookup fails with the failures of the probes behind its own, which stays the
  first of the causes. -/
  joined : ∀ failure, outcome = .error failure → isAmbiguous failure = true →
    interruption? findings = none → ∃ cause : Cause, failure = .single cause ∧
      result = .error (failure.join (failures findings)) ∧
      (failure.join (failures findings)).causes.head? = some cause

/-! ## Drops -/

theorem drop_of_other (h : failure.is .notAuthorized = false) :
    drop probe id (.error failure) s = (.error failure, s) := by
  simp only [drop, h]
  rfl

theorem drop_of_ambiguous (h : failure.is .notAuthorized = true) :
    drop probe id (.error failure) s =
      ((survey probe id.ancestors s).1.bind fun outcomes =>
          if nearestIsGone outcomes then .ok ()
          else .error (failure.join (outcomes.filterMap fun failure => failure)),
        (survey probe id.ancestors s).2) := by
  rcases run : survey probe id.ancestors s with ⟨result, s'⟩
  simp only [drop, h, Bool.not_true, Bool.false_eq_true, if_false, bind, StateT.bind, run]
  cases result with
  | error interruption => rfl
  | ok outcomes =>
      simp only [Except.bind]
      split
      next => rfl
      next => rfl

/-- The result of a drop with an ambiguous failure, by its findings. -/
def dropResult (failure : Failure) (findings : List Finding) : Except Failure Unit :=
  (unlessInterrupted findings (findings.map Finding.failure?)).bind fun outcomes =>
    if nearestIsGone outcomes then .ok () else .error (failure.join (failures findings))

theorem exists_findings_drop (probe : Prober σ) (id : Identifier) (s : σ)
    (h : failure.is .notAuthorized = true) :
    ∃ findings, Probes probe s findings (drop probe id (.error failure) s).2 ∧
      ProbedUntil Failure.isInterruption id.ancestors findings ∧
      (drop probe id (.error failure) s).1 = dropResult failure findings := by
  obtain ⟨findings, probes, probed, result⟩ := survey_eq probe id.ancestors s
  rw [drop_of_ambiguous h]
  refine ⟨findings, probes, probed, ?_⟩
  rw [result, dropResult]
  cases interrupted : interruption? findings with
  | some interruption =>
      rw [unlessInterrupted_of_some interrupted]
      rfl
  | none =>
      rw [unlessInterrupted_of_none interrupted]
      simp only [Except.bind, failures, List.filterMap_map]
      rfl

/-- When the call of a drop has ended, all that happens is probes. -/
theorem exists_probes_drop (probe : Prober σ) (id : Identifier) (outcome : Except Failure Unit)
    (s : σ) :
    ∃ findings, Probes probe s findings (drop probe id outcome s).2 := by
  cases outcome with
  | ok => exact ⟨[], .done⟩
  | error failure =>
      cases ambiguous : failure.is .notAuthorized with
      | false =>
          rw [drop_of_other ambiguous]
          exact ⟨[], .done⟩
      | true =>
          obtain ⟨findings, probes, -⟩ := exists_findings_drop probe id s ambiguous
          exact ⟨findings, probes⟩

theorem dropResult_of_some {interruption : Failure}
    (h : interruption? findings = some interruption) :
    dropResult failure findings = .error interruption := by
  rw [dropResult, unlessInterrupted_of_some h]
  rfl

theorem dropResult_of_none (h : interruption? findings = none) :
    dropResult failure findings =
      if nearestIsGone (findings.map Finding.failure?) then .ok ()
      else .error (failure.join (failures findings)) := by
  rw [dropResult, unlessInterrupted_of_none h]
  rfl

theorem nearestIsGone_iff (probed : ProbedUntil ends id.ancestors findings) :
    nearestIsGone (findings.map Finding.failure?) = true ↔ NearestGone id findings := by
  cases findings with
  | nil => simp [nearestIsGone, NearestGone]
  | cons finding findings =>
      obtain ⟨others, containers⟩ := probed.inOrder
      obtain ⟨container, outcome⟩ := finding
      simp only [NearestGone, ← containers]
      cases outcome with
      | ok => simp [nearestIsGone, Finding.failure?]
      | error gone => simp [nearestIsGone, Finding.failure?]

theorem dropResult_eq_ok_iff (probed : ProbedUntil ends id.ancestors findings) :
    dropResult failure findings = .ok () ↔
      NearestGone id findings ∧ interruption? findings = none := by
  rw [← nearestIsGone_iff probed]
  cases interrupted : interruption? findings with
  | some interruption => simp [dropResult_of_some interrupted]
  | none =>
      rw [dropResult_of_none interrupted]
      split
      next gone => simp [gone]
      next exists' => simp [exists']

theorem dropResult_of_undone (h : interruption? findings = none)
    (undone : dropResult failure findings ≠ .ok ()) :
    dropResult failure findings = .error (failure.join (failures findings)) := by
  rw [dropResult_of_none h] at undone ⊢
  exact if_neg fun gone => undone (if_pos gone)

theorem failures_of_succeeded (h : ∀ finding ∈ findings, finding.outcome = .ok ()) :
    failures findings = [] := by
  rw [List.eq_nil_iff_forall_not_mem]
  intro failure failed
  obtain ⟨finding, mem, failed⟩ := mem_failures_iff.mp failed
  simp [h finding mem] at failed

theorem dropResult_of_succeeded (h : ∀ finding ∈ findings, finding.outcome = .ok ()) :
    dropResult failure findings = .error failure := by
  have none := failures_of_succeeded h
  rw [dropResult_of_none (by rw [interruption?, none]; rfl), none, Failure.join_nil]
  refine if_neg ?_
  cases findings with
  | nil => simp [nearestIsGone]
  | cons finding findings => simp [nearestIsGone, Finding.failure?, h finding]

namespace IsDropResult

theorem of_success : IsDropResult id (.ok ()) [] (.ok ()) where
  unprobed := by simp
  probed := by simp
  done_iff := by simp
  unchanged := by simp
  interrupted := by simp [interruption?, failures]
  joined := by simp
  alone := by simp

theorem of_other (h : failure.is .notAuthorized = false) :
    IsDropResult id (.error failure) [] (.error failure) where
  unprobed := by simp
  probed := by simp [h]
  done_iff := by simp [h]
  unchanged := by simp
  interrupted := by simp [interruption?, failures]
  joined := by simp [failures]
  alone := by simp

theorem of_ambiguous (h : failure.is .notAuthorized = true)
    (probed : ProbedUntil Failure.isInterruption id.ancestors findings) :
    IsDropResult id (.error failure) findings (dropResult failure findings) := by
  have unprobed (account : id.level = .account) : findings = [] := by
    rw [Identifier.ancestors_eq_nil_iff.mpr account] at probed
    exact probed.eq_nil
  refine ⟨?_, ?_, ?_, ?_, ?_, ?_, ?_⟩
  · intro account
    exact unprobed (account failure rfl h)
  · rintro _ ⟨⟩ -
    exact probed
  · rw [dropResult_eq_ok_iff probed, interruption?_eq_none_iff]
    simp [h]
  · rintro _ ⟨⟩ (other | account)
    · simp [h] at other
    · exact dropResult_of_succeeded (by simp [unprobed account])
  · intro interruption interrupted
    exact dropResult_of_some interrupted
  · rintro _ ⟨⟩
    exact dropResult_of_undone
  · rintro _ ⟨⟩
    exact dropResult_of_succeeded

end IsDropResult

/-- **A drop is done only if its call succeeded or its nearest container is gone.** -/
theorem drop_reports_done_only_if_gone (probe : Prober σ) (id : Identifier)
    (outcome : Except Failure Unit) (s : σ) :
    ∃ findings, Probes probe s findings (drop probe id outcome s).2 ∧
      IsDropResult id outcome findings (drop probe id outcome s).1 := by
  cases outcome with
  | ok => exact ⟨[], .done, .of_success⟩
  | error failure =>
      cases ambiguous : failure.is .notAuthorized with
      | false =>
          rw [drop_of_other ambiguous]
          exact ⟨[], .done, .of_other ambiguous⟩
      | true =>
          obtain ⟨findings, probes, probed, result⟩ := exists_findings_drop probe id s ambiguous
          rw [result]
          exact ⟨findings, probes, .of_ambiguous ambiguous probed⟩

/-- A failure that was put together from two missing containers is not the news that the nearest one
is gone. -/
example :
    let hidden : Failure := .single (.notAuthorized "t")
    let missing := (Failure.notFound "s").join [.notFound "d"]
    let probe : Prober Unit := fun _ => pure (.error missing)
    (drop probe (.schema ⟨"d", "s", "t"⟩) (.error hidden) ()).1 =
      .error (hidden.join [missing, missing]) :=
  rfl

/-! ## Lookups -/

section Lookups

variable {α : Type}

theorem lookup_of_plain (h : isAmbiguous failure = false) :
    lookup (α := α) probe id (.error failure) s = (.error failure, s) := by
  simp only [lookup, h]
  rfl

theorem lookup_of_ambiguous (h : isAmbiguous failure = true) :
    lookup (α := α) probe id (.error failure) s =
      ((search probe id.ancestors s).1.bind fun failures => .error (failure.join failures),
        (search probe id.ancestors s).2) := by
  rcases run : search probe id.ancestors s with ⟨result, s'⟩
  simp only [lookup, h, Bool.not_true, Bool.false_eq_true, if_false, bind, StateT.bind, run]
  cases result with
  | error interruption => rfl
  | ok failures => rfl

/-- The failure of a lookup with an ambiguous failure, by its findings. -/
def lookupFailure (failure : Failure) (findings : List Finding) : Failure :=
  (interruption? findings).getD (failure.join (failures findings))

theorem exists_findings_lookup (probe : Prober σ) (id : Identifier) (s : σ)
    (h : isAmbiguous failure = true) :
    ∃ findings, Probes probe s findings (lookup (α := α) probe id (.error failure) s).2 ∧
      ProbedUntil isConclusive id.ancestors findings ∧
      (lookup (α := α) probe id (.error failure) s).1 =
        .error (lookupFailure failure findings) := by
  obtain ⟨findings, probes, probed, result⟩ := search_eq probe id.ancestors s
  rw [lookup_of_ambiguous h]
  refine ⟨findings, probes, probed, ?_⟩
  rw [result, lookupFailure]
  cases interrupted : interruption? findings with
  | some interruption =>
      rw [unlessInterrupted_of_some interrupted]
      rfl
  | none =>
      rw [unlessInterrupted_of_none interrupted]
      rfl

/-- When the call of a lookup has ended, all that happens is probes. -/
theorem exists_probes_lookup (probe : Prober σ) (id : Identifier) (outcome : Except Failure α)
    (s : σ) :
    ∃ findings, Probes probe s findings (lookup probe id outcome s).2 := by
  cases outcome with
  | ok => exact ⟨[], .done⟩
  | error failure =>
      cases ambiguous : isAmbiguous failure with
      | false =>
          rw [lookup_of_plain ambiguous]
          exact ⟨[], .done⟩
      | true =>
          obtain ⟨findings, probes, -⟩ := exists_findings_lookup (α := α) probe id s ambiguous
          exact ⟨findings, probes⟩

theorem exists_single_of_isAmbiguous (h : isAmbiguous failure = true) :
    ∃ cause : Cause, failure = .single cause := by
  rw [isAmbiguous, Bool.or_eq_true] at h
  rcases h with h | h
  · exact Failure.exists_single_of_is h
  · exact Failure.exists_single_of_is h

namespace IsLookupResult

theorem of_success (found : α) : IsLookupResult id (.ok found) [] (.ok found) where
  found_iff := by simp
  unprobed := by simp
  unchanged := by simp
  probed := by simp
  interrupted := by simp [interruption?, failures]
  joined := by simp

theorem of_plain (h : isAmbiguous failure = false) :
    IsLookupResult (α := α) id (.error failure) [] (.error failure) where
  found_iff := by simp
  unprobed := by simp
  unchanged := by simp
  probed := by simp [h]
  interrupted := by simp [interruption?, failures]
  joined := by simp [h]

theorem of_ambiguous (h : isAmbiguous failure = true)
    (probed : ProbedUntil isConclusive id.ancestors findings) :
    IsLookupResult (α := α) id (.error failure) findings
      (.error (lookupFailure failure findings)) where
  found_iff := by simp
  unprobed := by simp [h]
  unchanged := by simp [h]
  probed := by
    rintro _ ⟨⟩ -
    exact probed
  interrupted := by
    intro interruption interrupted
    rw [lookupFailure, interrupted, Option.getD_some]
  joined := by
    rintro _ ⟨⟩ - none
    obtain ⟨cause, rfl⟩ := exists_single_of_isAmbiguous h
    refine ⟨cause, rfl, ?_, rfl⟩
    rw [lookupFailure, none, Option.getD_none]

end IsLookupResult

/-- **A lookup never makes a failure into a success**, and it probes no further than the first
container that is gone. -/
theorem lookup_never_fabricates (probe : Prober σ) (id : Identifier) (outcome : Except Failure α)
    (s : σ) :
    ∃ findings, Probes probe s findings (lookup probe id outcome s).2 ∧
      IsLookupResult id outcome findings (lookup probe id outcome s).1 := by
  cases outcome with
  | ok found => exact ⟨[], .done, .of_success found⟩
  | error failure =>
      cases ambiguous : isAmbiguous failure with
      | false =>
          rw [lookup_of_plain ambiguous]
          exact ⟨[], .done, .of_plain ambiguous⟩
      | true =>
          obtain ⟨findings, probes, probed, result⟩ :=
            exists_findings_lookup (α := α) probe id s ambiguous
          rw [result]
          exact ⟨findings, probes, .of_ambiguous ambiguous probed⟩

end Lookups

end Recovery

end WarehouseAdmin
