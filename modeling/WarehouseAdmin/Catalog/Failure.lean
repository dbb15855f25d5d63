import WarehouseAdmin.Json.Printer
import WarehouseAdmin.Text.Basic

/-!
# Failures

A call to the account can fail in one of six ways, and several failures of one operation can be
reported together.  A failure therefore is a non-empty list of causes.  The failure *is* of a kind
when it has one cause only, and *contains* a kind when any of its causes is of it: a failure that
was put together from several is of no kind, so nothing that looks at the kind of a failure takes it
for a plain one.

## Main definitions

* `Cause`, `Cause.Kind` — what went wrong in one call.
* `Failure`, `Failure.join` — one or more causes, in order.
* `Failure.is`, `Failure.contains` — the kind of a failure and of its causes.
* `Failure.ofBackend` — the failure that an answer of the account's backend is.
-/

namespace WarehouseAdmin

/-- What went wrong in one call. -/
inductive Cause where
  /-- The object is known not to exist. -/
  | notFound (object : String)
  /-- The object or one that holds it is missing, or access was denied. -/
  | notAuthorized (detail : String)
  /-- The object or one that holds it is missing, or the operation is not allowed on it. -/
  | notPerformed (detail : String)
  /-- Any other failure of the backend. -/
  | backend (code message : String)
  /-- The operation was called off. -/
  | cancelled
  /-- The call did not end within its limit. -/
  | timedOut (millis : Nat)
  deriving DecidableEq

namespace Cause

/-- The kinds of causes. -/
inductive Kind where
  | notFound
  | notAuthorized
  | notPerformed
  | backend
  | cancelled
  | timedOut
  deriving DecidableEq

/-- Every kind, in the order in which they are listed. -/
def Kind.all : List Kind :=
  [.notFound, .notAuthorized, .notPerformed, .backend, .cancelled, .timedOut]

def Kind.tag : Kind → String
  | .notFound => "ObjectNotFound"
  | .notAuthorized => "ObjectNotExistOrNotAuthorized"
  | .notPerformed => "DoesNotExistOrOperationCannotBePerformed"
  | .backend => "Backend"
  | .cancelled => "Cancelled"
  | .timedOut => "Timeout"

def kind : Cause → Kind
  | .notFound _ => .notFound
  | .notAuthorized _ => .notAuthorized
  | .notPerformed _ => .notPerformed
  | .backend _ _ => .backend
  | .cancelled => .cancelled
  | .timedOut _ => .timedOut

def message : Cause → String
  | .notFound object => "Object '" ++ object ++ "' not found"
  | .notAuthorized detail => "Object does not exist or not authorized: " ++ detail
  | .notPerformed detail =>
    "Object does not exist or operation cannot be performed: " ++ detail
  | .backend code message => "Backend error " ++ code ++ ": " ++ message
  | .cancelled => "Operation cancelled"
  | .timedOut millis => "Operation timed out after " ++ toString millis ++ "ms"

def toJson (cause : Cause) : Json :=
  match cause with
  | .notFound detail | .notAuthorized detail | .notPerformed detail =>
    .tagged cause.kind.tag (.ofString detail)
  | .backend code message =>
    .tagged cause.kind.tag
      (.ofMembers [("code", .ofString code), ("message", .ofString message)])
  | .cancelled => .ofString cause.kind.tag
  | .timedOut millis =>
    .tagged cause.kind.tag (.ofMembers [("millis", .ofInt millis)])

end Cause

/-- Why an operation failed: at least one cause. -/
structure Failure where
  first : Cause
  others : List Cause
  deriving DecidableEq

namespace Failure

/-- A failure with one cause. -/
def single (cause : Cause) : Failure :=
  ⟨cause, []⟩

instance : Coe Cause Failure := ⟨single⟩

def causes (failure : Failure) : List Cause :=
  failure.first :: failure.others

/-- Whether a failure was put together from several causes. -/
def isJoined (failure : Failure) : Bool :=
  !failure.others.isEmpty

/-- The kind of a failure with one cause. -/
def kind? (failure : Failure) : Option Cause.Kind :=
  if failure.isJoined then none else some failure.first.kind

/-- Whether a failure itself is of a kind. -/
def is (failure : Failure) (k : Cause.Kind) : Bool :=
  failure.kind? = some k

/-- Whether a cause of a failure is of a kind. -/
def contains (failure : Failure) (k : Cause.Kind) : Bool :=
  failure.causes.any (·.kind = k)

/-- Whether a failure only says that the operation was cut short. -/
def isInterruption (failure : Failure) : Bool :=
  failure.is .cancelled || failure.is .timedOut

/-- A failure with further ones reported behind it. -/
def join (failure : Failure) (further : List Failure) : Failure :=
  ⟨failure.first, failure.others ++ further.flatMap causes⟩

/-- The messages of causes, numbered from `position` on, a line for each. -/
def numbered (position : Nat) (causes : List Cause) : String :=
  "\n".intercalate
    ((causes.zipIdx position).map fun (cause, i) => "[" ++ toString i ++ "] " ++ cause.message)

def message (failure : Failure) : String :=
  if failure.isJoined then numbered 1 failure.causes else failure.first.message

def toJson (failure : Failure) : Json :=
  if failure.isJoined then
    .tagged "Joined" (.array (failure.causes.map Cause.toJson))
  else failure.first.toJson

/-! ## Failures from elsewhere -/

/-- The largest number of milliseconds that a failure reports. -/
def maxMillis : Nat := UInt64.size - 1

/-- The failure of a call that did not end within so many milliseconds. -/
def timeout (millis : Nat) : Failure :=
  .single (.timedOut (min millis maxMillis))

/-- The failure that an object of that name does not exist. -/
def notFound (object : String) : Failure :=
  .single (.notFound object)

/-- The phrase by which a backend message says that an object may be missing or hidden. -/
def notAuthorizedPhrase : String := "does not exist or not authorized"

/-- The phrase by which a backend message says that an object may be missing or of a wrong kind. -/
def notPerformedPhrase : String := "does not exist or operation cannot be performed"

/-- Whether a message holds a phrase, whatever its case and its commas. -/
def mentions (message phrase : String) : Bool :=
  Text.holds phrase.toList ((Text.lower message.toList).filter (· ≠ ','))

/-- The failure that an answer of the backend is: two phrases tell the kind. -/
def ofBackend (code message : String) : Failure :=
  if mentions message notAuthorizedPhrase then .single (.notAuthorized message)
  else if mentions message notPerformedPhrase then .single (.notPerformed message)
  else .single (.backend code message)

end Failure

end WarehouseAdmin
