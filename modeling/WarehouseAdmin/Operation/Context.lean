import WarehouseAdmin.Catalog.Failure

/-!
# Operation contexts

The calls of an operation run one after the other in a context.  The context can be called off, now
or at a later instant, and it can limit the time of each call.  Time is a clock that counts
milliseconds and moves only while a call waits.

A call that is running ends with the earliest of three events: it completes, the context is called
off, or its limit is reached.  When it completes just at its limit, it has completed.

## Main definitions

* `Call` — how long a call takes, and what it answers.
* `Context` — the clock, the limit, and whether and when the context is called off.
* `Context.run` — one call.
-/

namespace WarehouseAdmin

/-- A call: it takes its time and then gives its answer, calling its own context off if it says
so. -/
structure Call (α : Type) where
  duration : Nat
  answer : Except Failure α
  cancels : Bool

/-- A call that answers at once. -/
def Call.immediate {α : Type} (answer : Except Failure α) : Call α :=
  ⟨0, answer, false⟩

/-- A context at an instant. -/
structure Context where
  /-- The instant, in milliseconds. -/
  now : Nat
  /-- How many milliseconds each call may take. -/
  limit : Option Nat
  isCancelled : Bool
  /-- The instant at which the context will be called off. -/
  cancelsAt : Option Nat
  deriving DecidableEq

namespace Context

/-- A context that begins at an instant and has not been called off. -/
def startAt (now : Nat) (limit : Option Nat) : Context :=
  ⟨now, limit, false, none⟩

/-- A context that begins at instant zero. -/
def start (limit : Option Nat) : Context :=
  startAt 0 limit

/-- Calls the context off. -/
def cancel (context : Context) : Context :=
  { context with isCancelled := true }

/-- Calls the context off so many milliseconds later, unless that happens earlier. -/
def cancelAfter (context : Context) (millis : Nat) : Context :=
  let instant := context.now + millis
  { context with cancelsAt := some ((context.cancelsAt.map (min instant)).getD instant) }

/-- Limits the time of each call. -/
def withLimit (context : Context) (millis : Nat) : Context :=
  { context with limit := some millis }

/-- Lets each call take any time. -/
def withoutLimit (context : Context) : Context :=
  { context with limit := none }

/-- A context with the same clock and limit that has not been called off. -/
def renew (context : Context) : Context :=
  { context with isCancelled := false, cancelsAt := none }

/-- The context at a later instant. -/
def waitUntil (context : Context) (instant : Nat) : Context :=
  { context with
    now := instant
    isCancelled := context.isCancelled || context.cancelsAt.any (· ≤ instant) }

/-- The instant at which a call that starts now has reached its limit. -/
def deadline (context : Context) : Option Nat :=
  context.limit.map (context.now + ·)

/-- Whether the context is called off before an instant. -/
def cancelsBefore (context : Context) (instant : Nat) : Option Nat :=
  context.cancelsAt.filter (· < instant)

/-- Runs a call.  In a context that has been called off the call is not even started. -/
def run {α : Type} (context : Context) (call : Call α) : Except Failure α × Context :=
  if context.isCancelled then (.error Cause.cancelled, context)
  else
    let completion := context.now + call.duration
    let expiry := context.deadline.filter (· < completion)
    let ending := expiry.getD completion
    match context.cancelsBefore ending with
    | some instant => (.error Cause.cancelled, context.waitUntil (max context.now instant))
    | none =>
      let after := context.waitUntil ending
      match expiry with
      | some _ => (.error (.timeout (context.limit.getD 0)), after)
      | none => (call.answer, if call.cancels then after.cancel else after)

end Context

end WarehouseAdmin
