import WarehouseAdmin.Operation.Context
import WarehouseAdmin.Proofs.Catalog.Failure
import Mathlib.Algebra.GroupWithZero.Nat
import Mathlib.Data.List.Basic

/-!
# Interruptions

A call in a context is interrupted when the context is off before the call would start, when it goes
off while the call runs, when the call takes longer than its limit, or when the call itself answers
that it was cut short.  `Context.Interrupts` says this on the clock, for a call behind others: these
have taken their whole time, so the instant at which the call would start is the sum of theirs.

Whichever event comes first decides.  When the context goes off at the very instant at which a call
ends, the call has ended before.

## Main statements

* `Context.ends_run` — the events that can end a call.
* `Context.interrupts_iff` — the first interruption of calls that run one after the other.
-/

namespace WarehouseAdmin

/-- A call without what it finds. -/
def Call.forget {α : Type} (call : Call α) : Call Unit :=
  ⟨call.duration, call.answer.map fun _ => (), call.cancels⟩

/-- A call that would start at an instant is interrupted, with this failure.  It can be limited, and
its context can be off at the start or go off at some instant. -/
inductive Call.Interrupted (limit cancelsAt : Option Nat) (start : Nat) (off : Prop)
    (call : Call Unit) : Failure → Prop
  /-- The context is off before the call would start. -/
  | off (h : off) : Interrupted limit cancelsAt start off call Cause.cancelled
  /-- The context goes off before the call completes and before its limit is reached. -/
  | cancelled {instant : Nat} (cancels : cancelsAt = some instant)
      (running : instant < start + call.duration)
      (inTime : ∀ millis, limit = some millis → instant < start + millis) :
      Interrupted limit cancelsAt start off call Cause.cancelled
  /-- The limit is reached before the call completes, and the context does not go off before. -/
  | expired {millis : Nat} (on : ¬ off) (limited : limit = some millis)
      (long : millis < call.duration)
      (later : ∀ instant, cancelsAt = some instant → start + millis ≤ instant) :
      Interrupted limit cancelsAt start off call (.timeout millis)
  /-- The call completes, and answers that it was cut short. -/
  | answered {failure : Failure} (on : ¬ off)
      (short : ∀ millis, limit = some millis → call.duration ≤ millis)
      (later : ∀ instant, cancelsAt = some instant → start + call.duration ≤ instant)
      (answer : call.answer = .error failure) (interruption : failure.isInterruption = true) :
      Interrupted limit cancelsAt start off call failure

namespace Context

variable {α : Type} {context : Context} {call : Call α} {first next : Call Unit}
  {earlier calls : List (Call Unit)} {failure : Failure}

/-! ## One call -/

/-- The context behind a call that took its whole time. -/
def pass (context : Context) (call : Call α) : Context :=
  let after := context.waitUntil (context.now + call.duration)
  if call.cancels then after.cancel else after

@[simp] theorem now_pass (context : Context) (call : Call α) :
    (context.pass call).now = context.now + call.duration := by
  rw [pass]
  cases call.cancels <;> rfl

@[simp] theorem limit_pass (context : Context) (call : Call α) :
    (context.pass call).limit = context.limit := by
  rw [pass]
  cases call.cancels <;> rfl

@[simp] theorem cancelsAt_pass (context : Context) (call : Call α) :
    (context.pass call).cancelsAt = context.cancelsAt := by
  rw [pass]
  cases call.cancels <;> rfl

theorem isCancelled_pass_iff : (context.pass call).isCancelled = true ↔
    context.isCancelled = true ∨ call.cancels = true ∨
      ∃ instant, context.cancelsAt = some instant ∧ instant ≤ context.now + call.duration := by
  rw [pass]
  cases call.cancels with
  | true => simp [cancel]
  | false => simp [waitUntil, Option.any_eq_true]

/-- The ends that a call can come to. -/
inductive Ends (context : Context) (call : Call α) : Except Failure α × Context → Prop
  /-- The context is off, and the call is not started. -/
  | off (off : context.isCancelled = true) : Ends context call (.error Cause.cancelled, context)
  /-- The context goes off while the call runs. -/
  | cancelled {instant : Nat} (on : context.isCancelled = false)
      (cancels : context.cancelsAt = some instant) (running : instant < context.now + call.duration)
      (inTime : ∀ limit, context.limit = some limit → instant < context.now + limit) :
      Ends context call (.error Cause.cancelled, context.waitUntil (max context.now instant))
  /-- The call takes longer than its limit. -/
  | expired {limit : Nat} (on : context.isCancelled = false) (limited : context.limit = some limit)
      (long : limit < call.duration)
      (later : ∀ instant, context.cancelsAt = some instant → context.now + limit ≤ instant) :
      Ends context call (.error (.timeout limit), context.waitUntil (context.now + limit))
  /-- The call takes its whole time. -/
  | completed (on : context.isCancelled = false)
      (short : ∀ limit, context.limit = some limit → call.duration ≤ limit)
      (later : ∀ instant, context.cancelsAt = some instant →
        context.now + call.duration ≤ instant) :
      Ends context call (call.answer, context.pass call)

theorem cancelsBefore_eq_some_iff {instant end_ : Nat} :
    context.cancelsBefore end_ = some instant ↔
      context.cancelsAt = some instant ∧ instant < end_ := by
  simp [cancelsBefore, Option.filter_eq_some_iff]

theorem cancelsBefore_eq_none_iff {end_ : Nat} :
    context.cancelsBefore end_ = none ↔
      ∀ instant, context.cancelsAt = some instant → end_ ≤ instant := by
  simp [cancelsBefore, Option.filter_eq_none_iff]

theorem deadline_filter_eq_some_iff {duration end_ : Nat} :
    context.deadline.filter (· < context.now + duration) = some end_ ↔
      ∃ limit, context.limit = some limit ∧ limit < duration ∧ end_ = context.now + limit := by
  rw [Option.filter_eq_some_iff, deadline, Option.map_eq_some_iff, decide_eq_true_iff]
  constructor
  · rintro ⟨⟨limit, limited, rfl⟩, long⟩
    exact ⟨limit, limited, by omega, rfl⟩
  · rintro ⟨limit, limited, long, rfl⟩
    exact ⟨⟨limit, limited, rfl⟩, by omega⟩

theorem deadline_filter_eq_none_iff {duration : Nat} :
    context.deadline.filter (· < context.now + duration) = none ↔
      ∀ limit, context.limit = some limit → duration ≤ limit := by
  simp [deadline, Option.filter_eq_none_iff]

/-- **The earliest event ends a call.** -/
theorem ends_run (context : Context) (call : Call α) : context.Ends call (context.run call) := by
  rw [run]
  cases on : context.isCancelled with
  | true => exact .off on
  | false =>
      rw [if_neg Bool.false_ne_true]
      cases expiry : context.deadline.filter (· < context.now + call.duration) with
      | none =>
          have short := deadline_filter_eq_none_iff.mp expiry
          cases before : context.cancelsBefore (context.now + call.duration) with
          | none =>
              simp only [expiry, before, Option.getD_none]
              exact .completed on short (cancelsBefore_eq_none_iff.mp before)
          | some instant =>
              obtain ⟨cancels, running⟩ := cancelsBefore_eq_some_iff.mp before
              simp only [expiry, before, Option.getD_none]
              refine .cancelled on cancels running fun limit limited => ?_
              have := short limit limited
              omega
      | some end_ =>
          obtain ⟨limit, limited, long, rfl⟩ := deadline_filter_eq_some_iff.mp expiry
          cases before : context.cancelsBefore (context.now + limit) with
          | none =>
              simp only [expiry, before, limited, Option.getD_some]
              exact .expired on limited long (cancelsBefore_eq_none_iff.mp before)
          | some instant =>
              obtain ⟨cancels, inTime⟩ := cancelsBefore_eq_some_iff.mp before
              simp only [expiry, before, Option.getD_some]
              have running : instant < context.now + call.duration := by omega
              refine .cancelled on cancels running fun limit' limited' => ?_
              obtain rfl := Option.some.inj (limited.symm.trans limited')
              exact inTime

/-- A call that was not interrupted has taken its whole time, and it gives its own answer. -/
theorem run_eq_of_uninterrupted (h : IsUninterrupted (context.run call).1) :
    context.run call = (call.answer, context.pass call) := by
  have ends := context.ends_run call
  generalize context.run call = result at h ends ⊢
  cases ends with
  | off | cancelled | expired => exact absurd (h _ rfl) (by simp)
  | completed => rfl

/-- A call has one end. -/
theorem Ends.unique {result result' : Except Failure α × Context} (h : context.Ends call result)
    (h' : context.Ends call result') : result = result' := by
  cases h with
  | off off =>
      cases h' with
      | off => rfl
      | cancelled on | expired on | completed on => simp [on] at off
  | cancelled on cancels running inTime =>
      cases h' with
      | off off => simp [on] at off
      | cancelled _ cancels' =>
          obtain rfl := Option.some.inj (cancels.symm.trans cancels')
          rfl
      | expired _ limited _ later =>
          have := inTime _ limited
          have := later _ cancels
          omega
      | completed _ _ later =>
          have := later _ cancels
          omega
  | expired on limited long later =>
      cases h' with
      | off off => simp [on] at off
      | cancelled _ cancels _ inTime =>
          have := inTime _ limited
          have := later _ cancels
          omega
      | expired _ limited' =>
          obtain rfl := Option.some.inj (limited.symm.trans limited')
          rfl
      | completed _ short =>
          have := short _ limited
          omega
  | completed on short later =>
      cases h' with
      | off off => simp [on] at off
      | cancelled _ cancels running =>
          have := later _ cancels
          omega
      | expired _ limited long =>
          have := short _ limited
          omega
      | completed => rfl

theorem ends_iff {result : Except Failure α × Context} :
    context.Ends call result ↔ context.run call = result := by
  constructor
  · exact (context.ends_run call).unique
  · rintro rfl
    exact context.ends_run call

/-- What a call finds does not change how it ends. -/
theorem run_forget (context : Context) (call : Call α) :
    context.run call.forget = ((context.run call).1.map fun _ => (), (context.run call).2) := by
  rw [← ends_iff]
  have ends := context.ends_run call
  generalize context.run call = result at ends ⊢
  cases ends with
  | off off => exact .off off
  | cancelled on cancels running inTime => exact .cancelled on cancels running inTime
  | expired on limited long later => exact .expired on limited long later
  | completed on short later => exact .completed on short later

/-! ## Calls one after the other -/

/-- The outcomes of calls that run one after the other. -/
def outcomes (context : Context) : List (Call Unit) → List (Except Failure Unit)
  | [] => []
  | call :: calls => (context.run call).1 :: (context.run call).2.outcomes calls

/-- The instant at which a call would start behind others that take their whole time. -/
def startBehind (context : Context) (earlier : List (Call Unit)) : Nat :=
  context.now + (earlier.map Call.duration).sum

/-- The context is off when a call would start behind others that take their whole time: it was off
from the beginning, one of them has called it off, or the instant at which it goes off is not later
than their end. -/
def IsOffBehind (context : Context) (earlier : List (Call Unit)) : Prop :=
  context.isCancelled = true ∨ (∃ call ∈ earlier, call.cancels = true) ∨
    earlier ≠ [] ∧
      ∃ instant, context.cancelsAt = some instant ∧ instant ≤ context.startBehind earlier

/-- A call behind others that take their whole time is interrupted, with this failure. -/
def Interrupts (context : Context) (earlier : List (Call Unit)) (call : Call Unit)
    (failure : Failure) : Prop :=
  call.Interrupted context.limit context.cancelsAt (context.startBehind earlier)
    (context.IsOffBehind earlier) failure

@[simp] theorem startBehind_nil (context : Context) : context.startBehind [] = context.now :=
  rfl

theorem startBehind_cons :
    context.startBehind (first :: earlier) = (context.pass first).startBehind earlier := by
  simp [startBehind, Nat.add_assoc]

theorem le_startBehind : context.now ≤ context.startBehind earlier :=
  Nat.le_add_right _ _

@[simp] theorem isOffBehind_nil : context.IsOffBehind [] ↔ context.isCancelled = true := by
  simp [IsOffBehind]

theorem isOffBehind_cons :
    context.IsOffBehind (first :: earlier) ↔ (context.pass first).IsOffBehind earlier := by
  rw [IsOffBehind, IsOffBehind, isCancelled_pass_iff, ← startBehind_cons, cancelsAt_pass]
  have later : context.now + first.duration ≤ context.startBehind (first :: earlier) := by
    rw [startBehind_cons, ← now_pass]
    exact le_startBehind
  cases earlier with
  | nil => simp [startBehind_cons]
  | cons second others =>
      -- An instant before the end of the first call is also before the end of them all.
      have sooner (h : ∃ instant, context.cancelsAt = some instant ∧
          instant ≤ context.now + first.duration) : ∃ instant, context.cancelsAt = some instant ∧
          instant ≤ context.startBehind (first :: second :: others) := by
        obtain ⟨instant, cancels, soon⟩ := h
        exact ⟨instant, cancels, Nat.le_trans soon later⟩
      simp only [List.exists_mem_cons_iff]
      grind

theorem interrupts_cons :
    context.Interrupts (first :: earlier) next failure ↔
      (context.pass first).Interrupts earlier next failure := by
  rw [Interrupts, Interrupts, startBehind_cons, propext isOffBehind_cons, limit_pass,
    cancelsAt_pass]

/-- A call behind no others is interrupted if the run says so. -/
theorem interrupts_nil_iff :
    context.Interrupts [] next failure ↔
      (context.run next).1 = .error failure ∧ failure.isInterruption = true := by
  rw [Interrupts, startBehind_nil, propext isOffBehind_nil]
  constructor
  · intro h
    cases h with
    | off off => simp [ends_iff.mp (.off off)]
    | cancelled cancels running inTime =>
        cases on : context.isCancelled with
        | true => simp [ends_iff.mp (.off on)]
        | false => simp [ends_iff.mp (.cancelled on cancels running inTime)]
    | expired on limited long later =>
        rw [Bool.not_eq_true] at on
        simp [ends_iff.mp (.expired on limited long later)]
    | answered on short later answer interruption =>
        rw [Bool.not_eq_true] at on
        simp [ends_iff.mp (.completed on short later), answer, interruption]
  · rintro ⟨failed, interruption⟩
    have ends := context.ends_run next
    generalize context.run next = result at ends failed
    cases ends with
    | off off =>
        obtain rfl := Except.error.inj failed
        exact .off off
    | cancelled on cancels running inTime =>
        obtain rfl := Except.error.inj failed
        exact .cancelled cancels running inTime
    | expired on limited long later =>
        obtain rfl := Except.error.inj failed
        exact .expired (by simp [on]) limited long later
    | completed on short later => exact .answered (by simp [on]) short later failed interruption

/-! ## The first interruption -/

/-- The context behind calls that run one after the other. -/
def behind (context : Context) : List (Call Unit) → Context
  | [] => context
  | call :: calls => (context.run call).2.behind calls

theorem outcomes_append : context.outcomes (earlier ++ calls) =
    context.outcomes earlier ++ (context.behind earlier).outcomes calls := by
  induction earlier generalizing context with
  | nil => rfl
  | cons first earlier ih => rw [List.cons_append, outcomes, outcomes, ih, List.cons_append, behind]

theorem interrupts_iff (h : ∀ outcome ∈ context.outcomes earlier, IsUninterrupted outcome) :
    context.Interrupts earlier next failure ↔
      ((context.behind earlier).run next).1 = .error failure ∧ failure.isInterruption = true := by
  induction earlier generalizing context with
  | nil => exact interrupts_nil_iff
  | cons first earlier ih =>
      obtain ⟨uninterrupted, others⟩ := List.forall_mem_cons.mp h
      -- The first call has taken its whole time, so the others start when it ends.
      have completed := run_eq_of_uninterrupted uninterrupted
      rw [interrupts_cons, behind]
      rw [completed] at others ⊢
      exact ih others

/-- The first call that is interrupted decides the result of an operation, and it is the last one
that is made. -/
structure DecidedByFirstInterruption (context : Context) (calls : List (Call Unit))
    (result : Except Failure α) : Prop where
  /-- An interruption is the result, as it is, and no call follows. -/
  decides : ∀ earlier call later failure, calls = earlier ++ call :: later →
    context.Interrupts earlier call failure →
    result = .error failure ∧ failure.isJoined = false ∧ later = []
  /-- There is no other way to such a result. -/
  complete : ∀ failure, result = .error failure → failure.isInterruption = true →
    ∃ earlier call, calls = earlier ++ [call] ∧ context.Interrupts earlier call failure

theorem DecidedByFirstInterruption.of_outcomes {result : Except Failure α} (ne : calls ≠ [])
    (goesOn : ∀ outcome ∈ (context.outcomes calls).dropLast, IsUninterrupted outcome)
    (last : ∀ failure, failure.isInterruption = true →
      (result = .error failure ↔ (context.outcomes calls).getLast? = some (.error failure))) :
    context.DecidedByFirstInterruption calls result where
  decides := by
    rintro earlier call later failure rfl interrupts
    rw [outcomes_append, outcomes] at goesOn last
    rw [List.dropLast_append_of_ne_nil (by simp)] at goesOn
    obtain ⟨failed, interruption⟩ := (interrupts_iff fun outcome mem =>
      goesOn outcome (List.mem_append_left _ mem)).mp interrupts
    cases later with
    | nil =>
        refine ⟨(last failure interruption).mpr ?_,
          Failure.isJoined_eq_false_of_isInterruption interruption, rfl⟩
        simp [outcomes, failed]
    | cons next others =>
        have uninterrupted := goesOn _ (List.mem_append_right _ List.mem_cons_self)
        rw [uninterrupted failure failed] at interruption
        cases interruption
  complete := by
    intro failure failed interruption
    obtain ⟨earlier, call, rfl⟩ := (List.eq_nil_or_concat' calls).resolve_left ne
    rw [outcomes_append, outcomes, outcomes] at goesOn last
    rw [List.dropLast_concat] at goesOn
    have answer := (last failure interruption).mp failed
    rw [List.getLast?_concat, Option.some.injEq] at answer
    exact ⟨earlier, call, rfl, (interrupts_iff goesOn).mpr ⟨answer, interruption⟩⟩

end Context

end WarehouseAdmin
