/-!
# Nesting

Clauses hold clauses, and a limit keeps a malformed tree from being written without end.  While a
clause is written, the objects around the place are on a stack; its height may not pass the limit.

## Main definitions

* `SqlError` — why a tree of clauses has no text.
* `Nesting` — the stack and its limit.
* `Nesting.enter`, `Nesting.leave`, `Nesting.current` — the operations on it.
-/

namespace WarehouseAdmin

/-- Why a tree of clauses has no text. -/
inductive SqlError where
  /-- There is no tree. -/
  | noClause
  /-- A field holds a value that its directive cannot write. -/
  | misfit (object field directive value : String)
  /-- A clause lies deeper than the limit; `path` leads to the clause around it. -/
  | tooDeep (path : List String) (depth limit : Nat)
  deriving DecidableEq

namespace SqlError

def message : SqlError → String
  | .noClause => "Options must not be nil"
  | .misfit object field directive value =>
    "Field '" ++ object ++ "." ++ field ++ "' is declared as " ++ directive ++ " but holds a " ++
      value ++ " value"
  | .tooDeep path depth limit =>
    "Recursion limit exceeded: " ++ " > ".intercalate path ++ " (depth: " ++ toString depth ++
      ", limit: " ++ toString limit ++ ")"

/-- The field that an error is about, if it is about one. -/
def field? : SqlError → Option String
  | .misfit _ field _ _ => some field
  | _ => none

end SqlError

/-- The objects whose clauses enclose a place, innermost first, and how many there may be. -/
structure Nesting where
  limit : Nat
  objects : List String
  deriving DecidableEq

namespace Nesting

/-- The limit that is used when none is given. -/
def defaultLimit : Nat := 32

/-- The place outside of all clauses. -/
def outermost (limit : Nat) : Nesting :=
  ⟨limit, []⟩

/-- The number of clauses around the place. -/
def depth (place : Nesting) : Nat :=
  place.objects.length

/-- The objects on the way to the place, outermost first. -/
def path (place : Nesting) : List String :=
  place.objects.reverse

/-- The object of the innermost clause around the place. -/
def current (place : Nesting) : String :=
  place.objects.head?.getD "<root>"

/-- The place inside a clause that lies here, unless the limit is reached. -/
def enter (place : Nesting) (object : String) : Except SqlError Nesting :=
  if place.limit ≤ place.depth then
    .error (.tooDeep place.path (place.depth + 1) place.limit)
  else .ok { place with objects := object :: place.objects }

/-- The place around the innermost clause; outside of all clauses it is the same place. -/
def leave (place : Nesting) : Nesting :=
  { place with objects := place.objects.tail }

/-- The error that a field of the innermost clause holds a value its directive cannot write. -/
def misfit (place : Nesting) (field directive value : String) : SqlError :=
  .misfit place.current field directive value

end Nesting

end WarehouseAdmin
