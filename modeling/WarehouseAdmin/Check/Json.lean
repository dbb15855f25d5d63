import WarehouseAdmin.Json.Printer

/-!
# Violations

A violation says which kind of rule a clause breaks, where the clause lies, and every field that the
rule is about.

## Main definitions

* `Violation`, `Violation.message` — a broken rule.
* `Violation.report` — the messages of several violations, a line for each.
* `Misuse` — a rule that cannot be checked at all.
* `Rejection` — why a statement is not accepted.
* `Violation.toJson` — a violation as JSON.
-/

namespace WarehouseAdmin

/-- The kinds of rules that a clause can break. -/
inductive Violation.Kind where
  | required
  | invalidIdentifier
  | exactlyOneOf
  | atLeastOneOf
  | conflicting
  deriving DecidableEq

/-- A broken rule. -/
structure Violation where
  kind : Violation.Kind
  /-- Where the clause lies that declares the rule. -/
  path : String
  /-- Every field that the rule is about. -/
  fields : List String
  deriving DecidableEq

namespace Violation

/-- Whether a violation is about a field. -/
def names (v : Violation) (field : String) : Bool :=
  v.fields.contains field

def message (v : Violation) : String :=
  let fields := "[" ++ " ".intercalate v.fields ++ "]"
  v.path ++ ": " ++
    match v.kind with
    | .required => "field " ++ fields ++ " should be set"
    | .invalidIdentifier => "invalid object identifier in field " ++ fields
    | .exactlyOneOf => "exactly one of fields " ++ fields ++ " must be set"
    | .atLeastOneOf => "at least one of fields " ++ fields ++ " must be set"
    | .conflicting =>
      "fields " ++ fields ++ " are incompatible and cannot be set at the same time"

/-- Whether a violation of that kind, about that field, is among some violations. -/
def occurs (kind : Kind) (field : String) (vs : List Violation) : Bool :=
  vs.any fun v => v.kind = kind && v.names field

/-- The messages of violations, a line for each. -/
def report (vs : List Violation) : String :=
  "\n".intercalate (vs.map message)

end Violation

/-- A rule that cannot be checked on a clause. -/
inductive Misuse where
  /-- The rule is about a field that the clause does not have. -/
  | unknownField (object field : String)
  /-- The rule is about a field whose value it cannot look into. -/
  | misfit (object field rule value : String)
  deriving DecidableEq

def Misuse.message : Misuse → String
  | .unknownField object field =>
    "Rule on '" ++ object ++ "' references unknown field '" ++ field ++ "'"
  | .misfit object field rule value =>
    "Rule " ++ rule ++ " cannot inspect field '" ++ object ++ "." ++ field ++ "' holding a " ++
      value ++ " value"

/-- Why a statement is not accepted. -/
inductive Rejection where
  /-- There is no statement. -/
  | noClause
  | misuse (misuse : Misuse)
  | violations (vs : List Violation)
  deriving DecidableEq

namespace Rejection

def message : Rejection → String
  | .noClause => "Options must not be nil"
  | .misuse m => m.message
  | .violations vs => Violation.report vs

/-- Whether a rejection is for a violation of that kind about that field. -/
def contains (r : Rejection) (kind : Violation.Kind) (field : String) : Bool :=
  match r with
  | .violations vs => Violation.occurs kind field vs
  | _ => false

end Rejection

end WarehouseAdmin

namespace WarehouseAdmin.Violation

/-! ## As JSON

A violation is serialized as a record of its kind, its place and its fields.
-/

/-- The name of a kind in serialized violations. -/
def Kind.tag : Kind → String
  | .required => "Required"
  | .invalidIdentifier => "InvalidIdentifier"
  | .exactlyOneOf => "ExactlyOneOf"
  | .atLeastOneOf => "AtLeastOneOf"
  | .conflicting => "ConflictingFields"

def toJson (v : Violation) : Json :=
  .ofMembers
    [("kind", .ofString v.kind.tag), ("path", .ofString v.path),
      ("fields", .ofTexts v.fields)]

end WarehouseAdmin.Violation
