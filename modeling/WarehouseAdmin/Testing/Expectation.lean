import WarehouseAdmin.Catalog.Failure
import WarehouseAdmin.Check.Json

/-!
# Expectations

What a trial expects of a rejection or a failure.
-/

namespace WarehouseAdmin

/-- Whether a rejection is for violations, as many as are expected, and among them one of every
expected kind about the expected field. -/
def Rejection.isAsExpected (expected : List (Violation.Kind × String)) : Rejection → Bool
  | .violations vs =>
    vs.length = expected.length &&
      expected.all fun (kind, field) => Violation.occurs kind field vs
  | _ => false

/-- Whether the causes of a failure are of the expected kinds, in order. -/
def Failure.isAsExpected (expected : List Cause.Kind) (failure : Failure) : Bool :=
  failure.causes.map Cause.kind = expected

end WarehouseAdmin
