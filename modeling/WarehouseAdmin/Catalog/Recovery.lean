import WarehouseAdmin.Catalog.Failure
import WarehouseAdmin.Identifier.Basic

/-!
# Recovery from ambiguous failures

Some failures do not tell whether the object is missing or something else is wrong.  The containers
of the object are then probed, nearest first.  A failed drop counts as done when its nearest
container is gone, because then the object is gone too.  A failed lookup never becomes a success; it
is only reported together with what the probes say.

A probe that is interrupted ends the recovery with that interruption: nothing is concluded from
probes that could not be finished.

How a probe is made is left open, so what is said here holds of every catalog.

## Main definitions

* `Recovery.survey` — probes of all containers.
* `Recovery.search` — probes up to the first container that is gone.
* `Recovery.drop`, `Recovery.lookup` — the outcome of an operation whose first call has ended.
-/

namespace WarehouseAdmin.Recovery

variable {σ : Type}

/-- How a container is probed. -/
abbrev Prober (σ : Type) := Container → StateM σ (Except Failure Unit)

/-- Probes every container, and gives the failure of each probe that failed.  An interruption ends
the probing. -/
def survey (probe : Prober σ) : List Container → StateM σ (Except Failure (List (Option Failure)))
  | [] => pure (.ok [])
  | container :: containers => do
    match ← probe container with
    | .ok () => return (← survey probe containers).map (none :: ·)
    | .error failure =>
      if failure.isInterruption then return .error failure
      else return (← survey probe containers).map (some failure :: ·)

/-- Probes containers up to the first that is gone, and gives the failures.  An interruption ends
the probing. -/
def search (probe : Prober σ) : List Container → StateM σ (Except Failure (List Failure))
  | [] => pure (.ok [])
  | container :: containers => do
    match ← probe container with
    | .ok () => search probe containers
    | .error failure =>
      if failure.isInterruption then return .error failure
      else if failure.is .notFound then return .ok [failure]
      else return (← search probe containers).map (failure :: ·)

/-- Whether the first of some probes says that its container is gone. -/
def nearestIsGone : List (Option Failure) → Bool
  | some failure :: _ => failure.is .notFound
  | _ => false

/-- The outcome of a drop whose call has ended. -/
def drop (probe : Prober σ) (id : Identifier) :
    Except Failure Unit → StateM σ (Except Failure Unit)
  | .ok () => pure (.ok ())
  | .error failure => do
    if !failure.is .notAuthorized then return .error failure
    match ← survey probe id.ancestors with
    | .error interruption => return .error interruption
    | .ok outcomes =>
      if nearestIsGone outcomes then return .ok ()
      else return .error (failure.join (outcomes.filterMap fun failure => failure))

/-- Whether a failure leaves open if the object of a lookup exists. -/
def isAmbiguous (failure : Failure) : Bool :=
  failure.is .notAuthorized || failure.is .notPerformed

/-- The outcome of a lookup whose call has ended. -/
def lookup {α : Type} (probe : Prober σ) (id : Identifier) :
    Except Failure α → StateM σ (Except Failure α)
  | .ok found => pure (.ok found)
  | .error failure => do
    if !isAmbiguous failure then return .error failure
    match ← search probe id.ancestors with
    | .error interruption => return .error interruption
    | .ok failures => return .error (failure.join failures)

end WarehouseAdmin.Recovery
