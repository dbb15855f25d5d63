import WarehouseAdmin.Proofs.Operation.Interruption
import WarehouseAdmin.Proofs.Outcome
import Mathlib.Data.List.Induction
import Mathlib.Order.Bounds.Defs

/-!
# Histories of a context

Calls are run in a context one after the other.  Between them the context can be called off, at once
or at an instant that is still to come; its limit can be set; it can be renewed; and time can pass.
Some calls call their own context off when they answer.  This module follows a context through any
such history.

Three things tell what the next call comes to: whether the context is off, the instant at which it
will go off, and its limit.  Each can be read off the history.  In a context that is off no call is
started.  Otherwise three events compete: the call completes, its limit is reached, and the context
goes off.  The first of them ends the call.  What the call finds makes no difference to this, so a
call that failed or came to its limit leaves nothing behind but the time that it took.

## Main statements

* `run_of_isFirst` — the first event ends a call.
* `isCancelled_after_iff`, `cancelsAt_after_iff`, `limit_after` — the context behind a history.
* `history_governs_runs` — the next call behind any history.
-/

namespace WarehouseAdmin.Context

variable {α : Type} {context start : Context} {call : Call α} {instant millis : Nat}

/-! ## Events -/

/-- What can end a call. -/
inductive Event where
  /-- The call takes its whole time. -/
  | completion
  /-- The limit of the call is reached. -/
  | expiry
  /-- The context goes off. -/
  | cancellation
  deriving DecidableEq

namespace Event

/-- Of two events at the same instant, the one with the lower rank comes first. -/
def rank : Event → Nat
  | completion => 0
  | expiry => 1
  | cancellation => 2

theorem rank_injective : Function.Injective rank := by
  intro event other same
  cases event <;> cases other <;> simp_all [rank]

/-- The instant of an event for a call that starts now, if the event is to come. -/
def instant? (context : Context) (call : Call α) : Event → Option Nat
  | completion => some (context.now + call.duration)
  | expiry => context.deadline
  | cancellation => context.cancelsAt

/-- The outcome of a call that an event ends. -/
def outcome (context : Context) (call : Call α) : Event → Except Failure α
  | completion => call.answer
  | expiry => .error (.timeout (context.limit.getD 0))
  | cancellation => .error Cause.cancelled

end Event

/-- For a call that starts now, an event comes before all others. -/
structure IsFirst (context : Context) (call : Call α) (event : Event) (instant : Nat) : Prop where
  happens : event.instant? context call = some instant
  first : ∀ (other : Event) later, other.instant? context call = some later →
    instant < later ∨ instant = later ∧ event.rank ≤ other.rank

variable {event : Event}

theorem IsFirst.unique {other : Event} {later : Nat} (h : context.IsFirst call event instant)
    (h' : context.IsFirst call other later) : event = other ∧ instant = later := by
  have ahead := h.first other later h'.happens
  have behind := h'.first event instant h.happens
  exact ⟨Event.rank_injective (by omega), by omega⟩

/-- In a context that is on, some event comes first. -/
theorem exists_isFirst (on : context.isCancelled = false) (call : Call α) :
    ∃ event instant, context.IsFirst call event instant := by
  have ends := context.ends_run call
  generalize context.run call = result at ends
  cases ends with
  | off off => simp [on] at off
  | @cancelled instant _ cancels running inTime =>
      refine ⟨.cancellation, instant, cancels, fun other later comes => ?_⟩
      cases other with
      | completion => exact Or.inl (Option.some.inj comes ▸ running)
      | expiry =>
          obtain ⟨limit, limited, rfl⟩ := Option.map_eq_some_iff.mp comes
          exact Or.inl (inTime limit limited)
      | cancellation => exact Or.inr ⟨Option.some.inj (cancels.symm.trans comes), Nat.le_refl _⟩
  | @expired limit _ limited long later =>
      have comes : context.deadline = some (context.now + limit) := by simp [deadline, limited]
      refine ⟨.expiry, context.now + limit, comes, fun other instant happens => ?_⟩
      cases other with
      | completion =>
          obtain rfl := Option.some.inj happens
          omega
      | expiry => exact Or.inr ⟨Option.some.inj (comes.symm.trans happens), Nat.le_refl _⟩
      | cancellation =>
          have := later instant happens
          simp only [Event.rank]
          omega
  | completed _ short later =>
      refine ⟨.completion, context.now + call.duration, rfl, fun other instant happens => ?_⟩
      cases other with
      | completion => exact Or.inr ⟨Option.some.inj happens, Nat.le_refl _⟩
      | expiry =>
          obtain ⟨limit, limited, rfl⟩ := Option.map_eq_some_iff.mp happens
          have := short limit limited
          simp only [Event.rank]
          omega
      | cancellation =>
          have := later instant happens
          simp only [Event.rank]
          omega

/-- The context behind a call that an event has ended.  Time has passed until then.  The context is
off if it has gone off by then, or if the call has completed and called it off. -/
def behindEvent (context : Context) (call : Call α) (event : Event) (instant : Nat) : Context :=
  { context with
    now := max context.now instant
    isCancelled := decide (context.cancelsAt = some instant) ||
      decide (event = .completion) && call.cancels }

/-- Up to the instant at which it goes off, a context that is on stays on. -/
theorem waitUntil_of_le (on : context.isCancelled = false)
    (later : ∀ pending, context.cancelsAt = some pending → instant ≤ pending) :
    context.waitUntil instant =
      { context with
        now := instant, isCancelled := decide (context.cancelsAt = some instant) } := by
  have off : context.cancelsAt.any (· ≤ instant) = decide (context.cancelsAt = some instant) := by
    rw [Bool.eq_iff_iff, Option.any_eq_true]
    simp only [decide_eq_true_iff]
    constructor
    · rintro ⟨pending, cancels, soon⟩
      rw [cancels, Nat.le_antisymm soon (later pending cancels)]
    · intro cancels
      exact ⟨instant, cancels, Nat.le_refl instant⟩
  rw [waitUntil, on, Bool.false_or, off]

/-- **The first event ends a call** in a context that is on. -/
theorem run_of_isFirst (on : context.isCancelled = false) (h : context.IsFirst call event instant) :
    context.run call = (event.outcome context call, context.behindEvent call event instant) := by
  rw [← ends_iff]
  have happens := h.happens
  cases event with
  | completion =>
      obtain rfl := Option.some.inj happens
      have later : ∀ pending, context.cancelsAt = some pending →
          context.now + call.duration ≤ pending := by
        intro pending cancels
        have := h.first .cancellation pending cancels
        omega
      have ends : context.Ends call (call.answer, context.pass call) := by
        refine .completed on (fun limit limited => ?_) later
        have := h.first .expiry (context.now + limit) (by simp [Event.instant?, deadline, limited])
        omega
      have behind : context.pass call =
          context.behindEvent call .completion (context.now + call.duration) := by
        rw [pass, waitUntil_of_le on later]
        cases cancels : call.cancels with
        | true => simp [cancel, behindEvent, cancels]
        | false => simp [behindEvent, cancels]
      rwa [behind] at ends
  | expiry =>
      obtain ⟨limit, limited, rfl⟩ := Option.map_eq_some_iff.mp happens
      have later : ∀ pending, context.cancelsAt = some pending → context.now + limit ≤ pending := by
        intro pending cancels
        have := h.first .cancellation pending cancels
        omega
      have long : limit < call.duration := by
        have := h.first .completion _ rfl
        simp only [Event.rank] at this
        omega
      have ends := Ends.expired on limited long later
      rw [waitUntil_of_le on later] at ends
      simpa [Event.outcome, limited, behindEvent] using ends
  | cancellation =>
      have running : instant < context.now + call.duration := by
        have := h.first .completion _ rfl
        simp only [Event.rank] at this
        omega
      have ends := Ends.cancelled on happens running fun limit limited => by
        have := h.first .expiry (context.now + limit) (by simp [Event.instant?, deadline, limited])
        simp only [Event.rank] at this
        omega
      have cancels : context.cancelsAt = some instant := happens
      simpa [Event.outcome, waitUntil, behindEvent, cancels, Nat.le_max_right] using ends

/-! ## Steps -/

/-- What is done to a context. -/
inductive Step : Type 1 where
  /-- A call is run. -/
  | run {α : Type} (call : Call α)
  /-- The context is called off. -/
  | cancel
  /-- The context will be called off so many milliseconds later, whatever runs then. -/
  | cancelAfter (millis : Nat)
  | withLimit (millis : Nat)
  | renew
  /-- Time passes, and no call runs. -/
  | wait (millis : Nat)

namespace Step

/-- The context after a step. -/
def applyTo (context : Context) : Step → Context
  | run call => (context.run call).2
  | cancel => context.cancel
  | cancelAfter millis => context.cancelAfter millis
  | withLimit millis => context.withLimit millis
  | renew => context.renew
  | wait millis => context.waitUntil (context.now + millis)

def Renews : Step → Prop
  | renew => True
  | _ => False

/-- The limit that a step sets. -/
def limit? : Step → Option Nat
  | withLimit millis => some millis
  | _ => none

/-- The step sets this instant for the context to be called off. -/
def Sets (context : Context) (instant : Nat) (step : Step) : Prop :=
  ∃ millis, step = cancelAfter millis ∧ instant = context.now + millis

/-- The step ends in a context that is off because of it: it calls the context off, or a call does
that it runs, or time passes and the context goes off. -/
def CallsOff (context : Context) : Step → Prop
  | cancel => True
  | run call => context.isCancelled = false ∧ ∃ event instant, context.IsFirst call event instant ∧
      (context.cancelsAt = some instant ∨ event = .completion ∧ call.cancels = true)
  | wait millis => ∃ instant, context.cancelsAt = some instant ∧ instant ≤ context.now + millis
  | cancelAfter _ | withLimit _ | renew => False

end Step

/-- The context after steps, one after the other. -/
def after (context : Context) (steps : List Step) : Context :=
  steps.foldl Step.applyTo context

/-- A step has called the context off, and it was not renewed since. -/
def IsOff (start : Context) (steps : List Step) : Prop :=
  HappenedSince (fun front (step : Step) => step.CallsOff (start.after front)) Step.Renews steps

/-- A step has set this instant for the context to be called off, and it was not renewed since. -/
def IsSet (start : Context) (steps : List Step) (instant : Nat) : Prop :=
  HappenedSince (fun front (step : Step) => step.Sets (start.after front) instant) Step.Renews steps

variable {steps : List Step} {step : Step}

theorem after_append_singleton (start : Context) (steps : List Step) (step : Step) :
    start.after (steps ++ [step]) = step.applyTo (start.after steps) := by
  simp [after]

/-- A call that is run changes no more than the clock and whether the context is off. -/
theorem limit_run (context : Context) (call : Call α) :
    (context.run call).2.limit = context.limit := by
  have ends := context.ends_run call
  generalize context.run call = result at ends
  cases ends with
  | off | cancelled | expired => rfl
  | completed => exact limit_pass context call

theorem cancelsAt_run (context : Context) (call : Call α) :
    (context.run call).2.cancelsAt = context.cancelsAt := by
  have ends := context.ends_run call
  generalize context.run call = result at ends
  cases ends with
  | off | cancelled | expired => rfl
  | completed => exact cancelsAt_pass context call

/-! ## The context behind a history -/

theorem limit_applyTo (context : Context) (step : Step) :
    (step.applyTo context).limit = step.limit?.or context.limit := by
  cases step with
  | run call => exact limit_run context call
  | cancel | cancelAfter | withLimit | renew | wait => rfl

/-- The limit of a call is the one that was set last. -/
theorem limit_after (start : Context) (steps : List Step) :
    (start.after steps).limit = (steps.reverse.findSome? Step.limit?).or start.limit := by
  induction steps using List.reverseRecOn with
  | nil => rfl
  | append_singleton steps step ih =>
      rw [after_append_singleton, limit_applyTo, ih, List.reverse_append, List.reverse_singleton,
        List.findSome?_append, List.findSome?_singleton, Option.or_assoc]

theorem isCancelled_applyTo_iff (context : Context) (step : Step) :
    (step.applyTo context).isCancelled = true ↔
      step.CallsOff context ∨ context.isCancelled = true ∧ ¬ step.Renews := by
  cases step with
  | run call =>
      simp only [Step.applyTo, Step.CallsOff, Step.Renews, not_false_iff, and_true]
      cases on : context.isCancelled with
      | true => simp [ends_iff.mp (.off on), on]
      | false =>
          obtain ⟨event, instant, first⟩ := exists_isFirst on call
          rw [run_of_isFirst on first]
          simp only [behindEvent, Bool.or_eq_true, Bool.and_eq_true, decide_eq_true_iff, true_and,
            Bool.false_eq_true, or_false]
          constructor
          · intro off
            exact ⟨event, instant, first, off⟩
          · rintro ⟨other, later, first', off⟩
            obtain ⟨rfl, rfl⟩ := first.unique first'
            exact off
  | cancel => simp [Step.applyTo, Step.CallsOff, cancel]
  | wait millis =>
      simp [Step.applyTo, Step.CallsOff, Step.Renews, waitUntil, Option.any_eq_true, or_comm]
  | cancelAfter | withLimit =>
      simp [Step.applyTo, Step.CallsOff, Step.Renews, cancelAfter, withLimit]
  | renew => simp [Step.applyTo, Step.CallsOff, Step.Renews, renew]

theorem isOff_append_singleton_iff :
    IsOff start (steps ++ [step]) ↔
      step.CallsOff (start.after steps) ∨ IsOff start steps ∧ ¬ step.Renews :=
  happenedSince_append_singleton_iff (fun front (step : Step) => step.CallsOff (start.after front))
    Step.Renews steps step

theorem isSet_append_singleton_iff :
    IsSet start (steps ++ [step]) instant ↔
      step.Sets (start.after steps) instant ∨ IsSet start steps instant ∧ ¬ step.Renews :=
  happenedSince_append_singleton_iff
    (fun front (step : Step) => step.Sets (start.after front) instant)
    Step.Renews steps step

/-- A context is off when it was called off and not renewed since. -/
theorem isCancelled_after_iff (on : start.isCancelled = false) (steps : List Step) :
    (start.after steps).isCancelled = true ↔ IsOff start steps := by
  induction steps using List.reverseRecOn with
  | nil => exact iff_of_false (by simp [after, on]) not_happenedSince_nil
  | append_singleton steps step ih =>
      rw [after_append_singleton, isCancelled_applyTo_iff, ih]
      exact isOff_append_singleton_iff.symm

theorem cancelsAt_cancelAfter (context : Context) (millis : Nat) :
    (context.cancelAfter millis).cancelsAt =
      some ((context.cancelsAt.map (min (context.now + millis))).getD (context.now + millis)) :=
  rfl

/-- What is to come was set. -/
theorem isSet_of_cancelsAt (unset : start.cancelsAt = none)
    (h : (start.after steps).cancelsAt = some instant) : IsSet start steps instant := by
  induction steps using List.reverseRecOn with
  | nil => simp [after, unset] at h
  | append_singleton steps step ih =>
      rw [after_append_singleton] at h
      rw [isSet_append_singleton_iff]
      cases step with
      | run call =>
          rw [Step.applyTo, cancelsAt_run] at h
          exact Or.inr ⟨ih h, id⟩
      | cancelAfter millis =>
          rw [Step.applyTo, cancelsAt_cancelAfter] at h
          cases pending : (start.after steps).cancelsAt with
          | none =>
              rw [pending] at h
              exact Or.inl ⟨millis, rfl, (Option.some.inj h).symm⟩
          | some earlier =>
              rw [pending, Option.map_some, Option.getD_some, Option.some.injEq] at h
              rcases Nat.le_total ((start.after steps).now + millis) earlier with sooner | later
              · rw [Nat.min_eq_left sooner] at h
                exact Or.inl ⟨millis, rfl, h.symm⟩
              · rw [Nat.min_eq_right later] at h
                rw [h] at pending
                exact Or.inr ⟨ih pending, id⟩
      | cancel | withLimit | wait => exact Or.inr ⟨ih h, id⟩
      | renew => cases h

/-- What was set is to come, or something sooner. -/
theorem exists_cancelsAt_of_isSet (h : IsSet start steps instant) :
    ∃ pending, (start.after steps).cancelsAt = some pending ∧ pending ≤ instant := by
  induction steps using List.reverseRecOn with
  | nil => exact absurd h not_happenedSince_nil
  | append_singleton steps step ih =>
      rw [after_append_singleton]
      rcases isSet_append_singleton_iff.mp h with ⟨millis, rfl, rfl⟩ | ⟨before, stays⟩
      · rw [Step.applyTo, cancelsAt_cancelAfter]
        cases (start.after steps).cancelsAt with
        | none => exact ⟨_, rfl, Nat.le_refl _⟩
        | some earlier => exact ⟨_, rfl, Nat.min_le_left _ _⟩
      · obtain ⟨pending, cancels, soon⟩ := ih before
        cases step with
        | run call =>
            rw [Step.applyTo, cancelsAt_run]
            exact ⟨pending, cancels, soon⟩
        | cancelAfter millis =>
            rw [Step.applyTo, cancelsAt_cancelAfter, cancels]
            exact ⟨_, rfl, Nat.le_trans (Nat.min_le_right _ _) soon⟩
        | cancel | withLimit | wait => exact ⟨pending, cancels, soon⟩
        | renew => exact absurd trivial stays

/-- A context goes off at the earliest instant that was set since it was renewed. -/
theorem cancelsAt_after_iff (unset : start.cancelsAt = none) :
    (start.after steps).cancelsAt = some instant ↔ IsLeast {i | IsSet start steps i} instant := by
  constructor
  · intro cancels
    refine ⟨isSet_of_cancelsAt unset cancels, fun other set => ?_⟩
    obtain ⟨pending, cancels', soon⟩ := exists_cancelsAt_of_isSet set
    obtain rfl := Option.some.inj (cancels.symm.trans cancels')
    exact soon
  · rintro ⟨set, least⟩
    obtain ⟨pending, cancels, soon⟩ := exists_cancelsAt_of_isSet set
    have same : pending = instant := Nat.le_antisymm soon (least (isSet_of_cancelsAt unset cancels))
    rw [cancels, same]

/-- While a context is on, the instant at which it will go off has not passed. -/
def IsTimely (context : Context) : Prop :=
  context.isCancelled = false → ∀ pending, context.cancelsAt = some pending → context.now ≤ pending

theorem IsTimely.applyTo (h : context.IsTimely) (step : Step) :
    (step.applyTo context).IsTimely := by
  intro on pending cancels
  cases step with
  | run call =>
      cases before : context.isCancelled with
      | true => simp [Step.applyTo, ends_iff.mp (.off before), before] at on
      | false =>
          obtain ⟨event, instant, first⟩ := exists_isFirst before call
          rw [Step.applyTo, run_of_isFirst before first] at cancels ⊢
          have soon := h before pending cancels
          have next := first.first .cancellation pending cancels
          simp only [behindEvent]
          omega
  | cancel => cases on
  | cancelAfter millis =>
      rw [Step.applyTo, cancelsAt_cancelAfter] at cancels
      show context.now ≤ pending
      cases earlier : context.cancelsAt with
      | none =>
          rw [earlier, Option.map_none, Option.getD_none, Option.some.injEq] at cancels
          omega
      | some instant =>
          rw [earlier, Option.map_some, Option.getD_some, Option.some.injEq] at cancels
          have := h on instant earlier
          omega
  | withLimit => exact h on pending cancels
  | renew => cases cancels
  | wait millis =>
      have still : context.cancelsAt.any (· ≤ context.now + millis) = false :=
        (Bool.or_eq_false_iff.mp on).2
      have := (Option.any_eq_false _ _).mp still pending cancels
      show context.now + millis ≤ pending
      simp only [decide_eq_false_iff_not] at this
      omega

theorem IsTimely.after (h : start.IsTimely) (steps : List Step) : (start.after steps).IsTimely := by
  induction steps using List.reverseRecOn with
  | nil => exact h
  | append_singleton steps step ih =>
      rw [after_append_singleton]
      exact ih.applyTo step

/-- No event that is to come has passed. -/
theorem IsTimely.le_instant (h : context.IsTimely) (on : context.isCancelled = false)
    (first : context.IsFirst call event instant) : context.now ≤ instant := by
  have happens := first.happens
  cases event with
  | completion =>
      obtain rfl := Option.some.inj happens
      exact Nat.le_add_right _ _
  | expiry =>
      obtain ⟨limit, -, rfl⟩ := Option.map_eq_some_iff.mp happens
      exact Nat.le_add_right _ _
  | cancellation => exact h on instant happens

/-! ## The next call -/

/-- What a history makes of the calls behind it. -/
structure GovernsRuns (start : Context) (steps : List Step) (context : Context) : Prop where
  /-- The limit of a call is the one that was set last. -/
  limit : context.limit = (steps.reverse.findSome? Step.limit?).or start.limit
  /-- The context goes off at the earliest instant that was set since it was renewed. -/
  cancelsAt : ∀ instant, context.cancelsAt = some instant ↔
    IsLeast {i | IsSet start steps i} instant
  /-- It is off when it was called off and not renewed since. -/
  isCancelled : context.isCancelled = true ↔ IsOff start steps
  /-- Once it is off, and until it is renewed, every call answers that it was called off; none is
  started, and no time passes. -/
  absorbed : IsOff start steps → ∀ more, (∀ step ∈ more, ¬ step.Renews) →
    ∀ {α : Type} (call : Call α),
    (context.after more).run call = (.error Cause.cancelled, context.after more)
  /-- In a context that is on, the first event ends a call and decides its outcome. -/
  ended : ¬ IsOff start steps → ∀ {α : Type} (call : Call α),
    ∃ event instant, context.IsFirst call event instant ∧ context.now ≤ instant ∧
      (context.run call).1 = event.outcome context call ∧ (context.run call).2.now = instant
  /-- Unless the context goes off by then or the call calls it off, all that the call leaves behind
  is that time has passed. -/
  kept : ¬ IsOff start steps → ∀ {α : Type} (call : Call α) event instant,
    context.IsFirst call event instant → context.cancelsAt ≠ some instant →
    (event = .completion → call.cancels = false) →
    (context.run call).2 = { context with now := instant } ∧ ¬ IsOff start (steps ++ [.run call])
  /-- A call that calls its own context off still gives its answer. -/
  answered : ¬ IsOff start steps → ∀ {α : Type} (call : Call α) instant,
    context.IsFirst call .completion instant → call.cancels = true →
    (context.run call).1 = call.answer ∧ IsOff start (steps ++ [.run call])
  /-- A renewed context is on, and nothing is set for it. -/
  renewed : ¬ IsOff start (steps ++ [.renew]) ∧ ∀ instant, ¬ IsSet start (steps ++ [.renew]) instant
  /-- A new limit does not change whether and when the context is off. -/
  limited : ∀ millis, (IsOff start (steps ++ [.withLimit millis]) ↔ IsOff start steps) ∧
    ∀ instant, IsSet start (steps ++ [.withLimit millis]) instant ↔ IsSet start steps instant

theorem after_append (start : Context) (steps more : List Step) :
    start.after (steps ++ more) = (start.after steps).after more := by
  simp [after]

/-- **A history decides what the next call comes to.** -/
theorem history_governs_runs (now : Nat) (limit : Option Nat) (steps : List Step) :
    GovernsRuns (startAt now limit) steps ((startAt now limit).after steps) := by
  have timely : (startAt now limit).IsTimely := by
    rintro - pending ⟨⟩
  have off_iff (steps : List Step) :
      ((startAt now limit).after steps).isCancelled = true ↔ IsOff (startAt now limit) steps :=
    isCancelled_after_iff rfl steps
  have on_of_not {steps : List Step} (h : ¬ IsOff (startAt now limit) steps) :
      ((startAt now limit).after steps).isCancelled = false :=
    Bool.eq_false_iff.mpr (mt (off_iff steps).mp h)
  refine ⟨limit_after _ steps, fun instant => cancelsAt_after_iff rfl, off_iff steps, ?_, ?_, ?_,
    ?_, ?_, ?_⟩
  · intro off more kept α call
    rw [← after_append]
    exact ends_iff.mp (.off ((off_iff _).mpr (off.append kept)))
  · intro on α call
    have on := on_of_not on
    obtain ⟨event, instant, first⟩ := exists_isFirst on call
    have soon := (timely.after steps).le_instant on first
    refine ⟨event, instant, first, soon, ?_, ?_⟩
    · rw [run_of_isFirst on first]
    · rw [run_of_isFirst on first]
      exact Nat.max_eq_right soon
  · intro stays α call event instant first apart keeps
    have on := on_of_not stays
    have uncalled : (decide (event = .completion) && call.cancels) = false := by
      rw [Bool.and_eq_false_imp, decide_eq_true_iff]
      exact keeps
    have soon := (timely.after steps).le_instant on first
    have behind : (((startAt now limit).after steps).run call).2 =
        { (startAt now limit).after steps with now := instant } := by
      rw [run_of_isFirst on first]
      simp [behindEvent, Nat.max_eq_right soon, apart, uncalled, on]
    refine ⟨behind, ?_⟩
    rw [← off_iff, after_append_singleton, Step.applyTo, behind, on]
    exact Bool.false_ne_true
  · intro on α call instant first cancels
    rw [isOff_append_singleton_iff, run_of_isFirst (on_of_not on) first]
    exact ⟨rfl, Or.inl ⟨on_of_not on, .completion, instant, first, Or.inr ⟨rfl, cancels⟩⟩⟩
  · refine ⟨?_, fun instant => ?_⟩
    · simp [isOff_append_singleton_iff, Step.CallsOff, Step.Renews]
    · simp [isSet_append_singleton_iff, Step.Sets, Step.Renews]
  · intro millis
    refine ⟨?_, fun instant => ?_⟩
    · simp [isOff_append_singleton_iff, Step.CallsOff, Step.Renews]
    · simp [isSet_append_singleton_iff, Step.Sets, Step.Renews]

end WarehouseAdmin.Context
