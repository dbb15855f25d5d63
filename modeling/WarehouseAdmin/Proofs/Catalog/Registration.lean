import WarehouseAdmin.Catalog.Operation
import WarehouseAdmin.Proofs.Catalog.Hierarchy
import WarehouseAdmin.Proofs.Catalog.Recovery
import WarehouseAdmin.Proofs.Operation.Interruption

/-!
# Recovery by a registry

A registry answers every probe at once, and what it answers depends on what is registered and on
nothing else.  So what an ambiguous failure comes to can be read off the registry: the nearest
container decides.

The outer container never disagrees with the nearest one.  A schema is registered only along with
its database, whatever changes the registry has seen, so behind a nearest container that is
registered no probe fails, and a failure that is not recovered from stays as it was.

## Main statements

* `registration_decides` — drops and lookups by what is registered.
-/

namespace WarehouseAdmin

/-! ## Calls that leave their context on -/

namespace Context

variable {α : Type} {context : Context} {call : Call α}

/-- The context has not been called off, and it is not about to be. -/
structure IsOn (context : Context) : Prop where
  on : context.isCancelled = false
  later : ∀ instant, context.cancelsAt = some instant → context.now < instant

/-- The call ends within its limit, and the context is still on behind it. -/
structure StaysOn (context : Context) (call : Call α) : Prop where
  on : context.isCancelled = false
  short : ∀ limit, context.limit = some limit → call.duration ≤ limit
  later : ∀ instant, context.cancelsAt = some instant → context.now + call.duration < instant
  keeps : call.cancels = false

theorem StaysOn.run_eq (h : context.StaysOn call) :
    context.run call = (call.answer, context.pass call) :=
  ends_iff.mp (.completed h.on h.short fun instant cancels =>
    Nat.le_of_lt (h.later instant cancels))

theorem StaysOn.isOn_pass (h : context.StaysOn call) : (context.pass call).IsOn where
  on := by
    rw [← Bool.not_eq_true, isCancelled_pass_iff]
    rintro (off | cancels | ⟨instant, cancels, soon⟩)
    · simp [h.on] at off
    · simp [h.keeps] at cancels
    · exact absurd (h.later instant cancels) (Nat.not_lt.mpr soon)
  later := by
    rw [cancelsAt_pass, now_pass]
    exact h.later

/-- A call that answers at once leaves no trace in a context that is on. -/
theorem IsOn.run_immediate (h : context.IsOn) (answer : Except Failure α) :
    context.run (.immediate answer) = (answer, context) := by
  have stays : context.StaysOn (Call.immediate answer) :=
    ⟨h.on, by simp [Call.immediate], h.later, rfl⟩
  have same : context.pass (Call.immediate answer) = context := by
    have pending : context.cancelsAt.any (· ≤ context.now) = false := by
      rw [Option.any_eq_false]
      intro instant cancels
      simpa using h.later instant cancels
    simp [pass, Call.immediate, waitUntil, pending]
  rw [stays.run_eq, same]
  rfl

end Context

/-! ## Probes of a registry -/

namespace Recovery

variable {σ : Type} {probe : Prober σ} {answer : Container → Except Failure Unit} {s s' : σ}
  {findings : List Finding}

/-- Where a probe changes nothing, each gives the answer for its container. -/
theorem Probes.outcome_eq (answers : ∀ container, probe container s = (answer container, s))
    (probes : Probes probe s findings s') :
    ∀ finding ∈ findings, finding.outcome = answer finding.container := by
  induction probes with
  | done => simp
  | @next s s' s'' finding findings first _ ih =>
      obtain ⟨answered, rfl⟩ := Prod.mk.inj ((answers finding.container).symm.trans first)
      exact List.forall_mem_cons.mpr ⟨answered.symm, ih answers⟩

end Recovery

namespace Registry

open Recovery (Finding Probes ProbedUntil NearestGone)

variable {α : Type} {registry : Registry} {container nearest : Container} {outer : List Container}
  {id : Identifier} {context behind : Context} {failure : Failure} {changes : List Change}
  {findings : List Finding}

/-- A container is registered. -/
def has (registry : Registry) : Container → Bool
  | .schema id => registry.hasSchema id
  | .database id => registry.hasDatabase id

theorem probe_of_has (h : registry.has container = true) : registry.probe container = .ok () := by
  cases container with
  | schema id =>
      obtain ⟨info, shown, -⟩ := exists_showSchema_eq_ok h
      rw [probe, shown]
      rfl
  | database id =>
      obtain ⟨info, shown, -⟩ := exists_showDatabase_eq_ok h
      rw [probe, shown]
      rfl

theorem probe_of_not_has (h : registry.has container = false) :
    registry.probe container = .error (.notFound container.id.text) := by
  cases container with
  | schema id =>
      rw [probe, showSchema_eq_error h]
      rfl
  | database id =>
      rw [probe, showDatabase_eq_error h]
      rfl

theorem isUninterrupted_probe (registry : Registry) (container : Container) :
    IsUninterrupted (registry.probe container) := by
  intro failure failed
  cases registered : registry.has container with
  | true => simp [probe_of_has registered] at failed
  | false =>
      rw [probe_of_not_has registered] at failed
      obtain rfl := Except.error.inj failed
      rfl

/-- Behind a container that is registered, the outer ones are registered too. -/
theorem has_of_has_nearest (lies : id.ancestors = nearest :: outer)
    (h : (after changes).has nearest = true) :
      ∀ container ∈ outer, (after changes).has container = true := by
  cases id with
  | account => simp [Identifier.ancestors] at lies
  | database =>
      obtain ⟨-, rfl⟩ := List.cons.inj lies
      simp
  | schema | signature =>
      obtain ⟨rfl, rfl⟩ := List.cons.inj lies
      rw [List.forall_mem_singleton]
      exact hasDatabase_after_of_hasSchema h

/-- An object whose database is not registered lies in no container that is. -/
theorem not_has_nearest {db : AccountScoped} (lies : id.ancestors = nearest :: outer)
    (within : .database db ∈ id.ancestors) (h : (after changes).hasDatabase db = false) :
    (after changes).has nearest = false := by
  rw [lies, List.mem_cons] at within
  rw [← Bool.not_eq_true]
  intro registered
  rcases within with rfl | within
  · simp [has, h] at registered
  · have outermost := has_of_has_nearest lies registered _ within
    simp [has, h] at outermost

theorem ask_eq (h : context.IsOn) (container : Container) :
    registry.ask container context = (registry.probe container, context) :=
  h.run_immediate (registry.probe container)

/-! ## Drops and lookups -/

/-- What a drop comes to by what is registered. -/
structure DecidesDrop (registry : Registry) (id : Identifier) (nearest : Container)
    (failure : Failure) (result : Except Failure Unit) : Prop where
  /-- The drop is done if the nearest container is not registered. -/
  done_iff : result = .ok () ↔ registry.has nearest = false
  /-- So it is done whenever the database is not registered. -/
  orphaned : ∀ db, .database db ∈ id.ancestors → registry.hasDatabase db = false → result = .ok ()
  /-- Otherwise it fails as its call did, and not with a joined failure. -/
  refused : result ≠ .ok () → result = .error failure ∧ failure.isJoined = false

/-- What a lookup comes to by what is registered. -/
structure DecidesLookup (registry : Registry) (nearest : Container) (failure : Failure)
    (result : Except Failure α) : Prop where
  /-- Where the nearest container is registered, the lookup fails as its call did. -/
  unchanged : registry.has nearest = true → result = .error failure
  /-- Otherwise it fails with two causes: that of its call, and that the nearest container is not
  found. -/
  joined : registry.has nearest = false →
    ∃ cause, failure = .single cause ∧ result = .error ⟨cause, [.notFound nearest.id.text]⟩

/-- Where the nearest container is registered, every probe succeeds. -/
theorem outcome_eq_ok {ends : Failure → Bool} (lies : id.ancestors = nearest :: outer)
    (registered : (after changes).has nearest = true) (on : context.IsOn)
    (probes : Probes (after changes).ask context findings behind)
    (probed : ProbedUntil ends id.ancestors findings) :
    ∀ finding ∈ findings, finding.outcome = .ok () := by
  intro finding mem
  rw [probes.outcome_eq (ask_eq on) finding mem]
  refine probe_of_has ?_
  have among : finding.container ∈ nearest :: outer :=
    lies ▸ probed.inOrder.subset (List.mem_map_of_mem mem)
  rcases List.mem_cons.mp among with same | further
  · rw [same]
    exact registered
  · exact has_of_has_nearest lies registered _ further

theorem recoveryDrop_eq (lies : id.ancestors = nearest :: outer) (on : context.IsOn)
    (ambiguous : failure.is .notAuthorized = true) :
    (Recovery.drop (after changes).ask id (.error failure) context).1 =
      if (after changes).has nearest then .error failure else .ok () := by
  obtain ⟨findings, probes, probed, result⟩ :=
    Recovery.exists_findings_drop (after changes).ask id context ambiguous
  rw [result]
  split
  next registered =>
    exact Recovery.dropResult_of_succeeded (outcome_eq_ok lies registered on probes probed)
  next missing =>
    have answered := probes.outcome_eq (ask_eq on)
    have uninterrupted : ∀ finding ∈ findings, IsUninterrupted finding.outcome := by
      intro finding mem
      rw [answered finding mem]
      exact isUninterrupted_probe _ _
    have all : findings.map Finding.container = nearest :: outer := by
      rw [← lies]
      exact probed.complete fun finding mem =>
        Finding.isUninterrupted_iff.mp (uninterrupted finding mem)
    obtain ⟨first, others, rfl, rfl, -⟩ := List.map_eq_cons_iff.mp all
    rw [Bool.not_eq_true] at missing
    have gone : NearestGone id (first :: others) := by
      refine ⟨first.container, .notFound first.container.id.text, by simp [lies], ?_, rfl⟩
      rw [List.head?_cons, ← probe_of_not_has missing, ← answered first List.mem_cons_self]
    rw [Recovery.dropResult_eq_ok_iff probed, Recovery.interruption?_eq_none_iff]
    exact ⟨gone, uninterrupted⟩

theorem recoveryLookup_eq (lies : id.ancestors = nearest :: outer) (on : context.IsOn)
    (ambiguous : Recovery.isAmbiguous failure = true) :
    (Recovery.lookup (α := α) (after changes).ask id (.error failure) context).1 =
      .error (if (after changes).has nearest then failure
        else failure.join [.notFound nearest.id.text]) := by
  split
  next registered =>
    obtain ⟨findings, probes, probed, result⟩ :=
      Recovery.exists_findings_lookup (α := α) (after changes).ask id context ambiguous
    have none := Recovery.failures_of_succeeded (outcome_eq_ok lies registered on probes probed)
    rw [result, Recovery.lookupFailure, Recovery.interruption?, none, Failure.join_nil]
    rfl
  next missing =>
    -- The first probe says that its container is not found, so it is the last one.
    rw [Bool.not_eq_true] at missing
    have first : (after changes).ask nearest context =
        (.error (.notFound nearest.id.text), context) := by
      rw [ask_eq on, probe_of_not_has missing]
    rw [Recovery.lookup_of_ambiguous ambiguous, lies, Recovery.search_cons_of_conclusive first rfl]
    rfl

/-- **What is registered decides.**  Behind a call that failed because its object may be missing or
hidden, a drop and a lookup of an object in a database come to what the nearest container makes of
them. -/
theorem registration_decides (changes : List Change) {id : Identifier} (below : id.level ≠ .account)
    (context : Context) {failure : Failure} (ambiguous : failure.is .notAuthorized = true) :
    ∃ nearest, id.ancestors.head? = some nearest ∧
      (∀ call : Call Unit, context.StaysOn call → call.answer = .error failure →
        DecidesDrop (after changes) id nearest failure ((after changes).drop id call context).1) ∧
      ∀ {α : Type} (call : Call α), context.StaysOn call → call.answer = .error failure →
        DecidesLookup (after changes) nearest failure
          ((after changes).lookup id call context).1 := by
  obtain ⟨nearest, outer, lies⟩ : ∃ nearest outer, id.ancestors = nearest :: outer :=
    List.exists_cons_of_ne_nil (mt Identifier.ancestors_eq_nil_iff.mp below)
  obtain ⟨cause, rfl⟩ := Failure.exists_single_of_is ambiguous
  refine ⟨nearest, by simp [lies], ?_, ?_⟩
  · intro call stays failed
    have result : ((after changes).drop id call context).1 =
        if (after changes).has nearest then .error (.single cause) else .ok () := by
      rw [drop, stays.run_eq, failed]
      exact recoveryDrop_eq lies stays.isOn_pass ambiguous
    rw [result]
    refine ⟨by simp, ?_, ?_⟩
    · intro db within unknown
      rw [not_has_nearest lies within unknown]
      rfl
    · intro undone
      split at undone
      next registered => exact ⟨if_pos registered, rfl⟩
      next => exact absurd rfl undone
  · intro α call stays failed
    have result : ((after changes).lookup id call context).1 =
        .error (if (after changes).has nearest then .single cause
          else (Failure.single cause).join [.notFound nearest.id.text]) := by
      rw [lookup, stays.run_eq, failed]
      refine recoveryLookup_eq lies stays.isOn_pass ?_
      rw [Recovery.isAmbiguous, ambiguous, Bool.true_or]
    rw [result]
    refine ⟨?_, ?_⟩
    · intro registered
      rw [if_pos registered]
    · intro missing
      exact ⟨cause, rfl,
        by simp [missing, Failure.join, Failure.single, Failure.notFound, Failure.causes]⟩

/-- A schema was registered, and with it its database; then the schema alone was removed. -/
theorem registration_decides_removed_schema :
    let changes : List Change := [.nameSchema ⟨"DB", "S"⟩, .removeSchema ⟨"DB", "S"⟩]
    let id : Identifier := .schema ⟨"DB", "S", "T"⟩
    let hidden : Failure := .single (.notAuthorized "T")
    let call : Call Unit := ⟨3, .error hidden, false⟩
    id.level ≠ .account ∧ hidden.is .notAuthorized = true ∧ (Context.start none).StaysOn call ∧
      ((after changes).drop id call (Context.start none)).1 = .ok () ∧
      ((after changes).lookup id call (Context.start none)).1 =
        .error ⟨.notAuthorized "T", [.notFound "DB.S"]⟩ := by
  intro changes id hidden call
  have below : id.level ≠ .account := by decide
  have stays : (Context.start none).StaysOn call := ⟨rfl, nofun, nofun, rfl⟩
  have ambiguous : hidden.is .notAuthorized = true := rfl
  obtain ⟨nearest, head, drops, lookups⟩ :=
    registration_decides changes below (Context.start none) ambiguous
  obtain rfl : .schema ⟨"DB", "S"⟩ = nearest := Option.some.inj head
  have missing : (after changes).has (.schema ⟨"DB", "S"⟩) = false := by decide
  obtain ⟨cause, same, joined⟩ := (lookups call stays rfl).joined missing
  obtain rfl : .notAuthorized "T" = cause := congrArg Failure.first same
  exact ⟨below, ambiguous, stays, (drops call stays rfl).done_iff.mpr missing, joined⟩

end Registry

end WarehouseAdmin
