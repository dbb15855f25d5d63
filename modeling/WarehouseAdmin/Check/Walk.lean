import WarehouseAdmin.Check.Json
import WarehouseAdmin.Clause.Basic

/-!
# Checking clauses against their rules

A statement is checked by a walk over its tree.  On each clause the rules are checked in order, and
a broken rule never ends the walk.  A rule about inner clauses leads into them: there the rules that
it gives are checked, and then the rules that the inner clause declares itself.  Only a rule that
cannot be checked at all ends the walk.

## Main definitions

* `Rule.isBroken` — whether a rule is broken on a clause, inner clauses aside.
* `Clause.findings` — the violations below a clause, in the order of the walk.
* `Clause.violations`, `Clause.validate` — the check of a whole statement.
-/

namespace WarehouseAdmin

/-! ## Rules on one clause -/

/-- The value of the first field of that name. -/
def Entry.lookup (object : String) (entries : List Entry) (field : String) : Except Misuse Value :=
  match entries.find? (·.field == field) with
  | some entry => .ok entry.value
  | none => .error (.unknownField object field)

/-- How many of the listed fields are set; a field listed twice counts twice. -/
def Entry.countPresent (object : String) (entries : List Entry) (fields : List String) :
    Except Misuse Nat :=
  (fields.mapM (Entry.lookup object entries)).map fun values => values.countP Value.isPresent

/-- Whether all items of a list are valid identifiers; another item cannot be looked into. -/
def Value.allValid (object field : String) : List Value → Except Misuse Bool
  | [] => .ok true
  | .identifier id :: items =>
    (Value.allValid object field items).map fun rest => id.isValid && rest
  | item :: _ => .error (.misfit object field "ValidIdentifier" item.kind)

/-- Whether the identifiers that a value holds are acceptable: an unset one is when it may be
unset, and a set one when it is valid. -/
def Value.identifiersFit (object field : String) (optional : Bool) :
    Value → Except Misuse Bool
  | .absent => .ok optional
  | .identifier id => .ok id.isValid
  | .list [] => .ok optional
  | .list items => Value.allValid object field items
  | value => .error (.misfit object field "ValidIdentifier" value.kind)

/-- Whether a rule is broken on a clause.  What a nested rule asks of inner clauses is not
considered here. -/
def Rule.isBroken (object : String) (entries : List Entry) : Rule → Except Misuse Bool
  | .required field => (Entry.lookup object entries field).map fun value => !value.isPresent
  | .validIdentifier field optional =>
    (Entry.lookup object entries field).bind fun value =>
      (value.identifiersFit object field optional).map (!·)
  | .exactlyOneOf fields => (Entry.countPresent object entries fields).map (· ≠ 1)
  | .atLeastOneOf fields => (Entry.countPresent object entries fields).map (· = 0)
  | .conflicting fields => (Entry.countPresent object entries fields).map (1 < ·)
  | .nested _ _ => .ok false

/-- The kind of violation that breaking a rule is. -/
def Rule.breach? : Rule → Option Violation.Kind
  | .required _ => some .required
  | .validIdentifier _ _ => some .invalidIdentifier
  | .exactlyOneOf _ => some .exactlyOneOf
  | .atLeastOneOf _ => some .atLeastOneOf
  | .conflicting _ => some .conflicting
  | .nested _ _ => none

/-- The violation of a rule on a clause that lies at `path`, if there is one. -/
def Rule.findings (object : String) (entries : List Entry) (path : String) (rule : Rule) :
    Except Misuse (List Violation) :=
  (rule.isBroken object entries).map fun isBroken =>
    if isBroken then (rule.breach?.map fun kind => ⟨kind, path, rule.fields⟩).toList else []

/-! ## Paths -/

/-- The path of the clause in a field. -/
def fieldPath (path field : String) : String :=
  path ++ "." ++ field

/-- The path of the clause at a position of a list. -/
def itemPath (path : String) (position : Nat) : String :=
  path ++ "[" ++ toString position ++ "]"

/-! ## The walk -/

mutual

/-- The violations of the given rules on a clause that lies at `path`, and below it. -/
def Clause.findings (path : String) (rules : List Rule) :
    Clause → Except Misuse (List Violation)
  | ⟨object, entries, _⟩ => rules.flatMapM fun rule =>
    match rule with
    | .nested field inner => Entry.innerFindings object (fieldPath path field) field inner entries
    | rule => rule.findings object entries path
termination_by structural clause => clause

/-- The violations in the clauses that the first field of that name holds, which lies at `path`. -/
def Entry.innerFindings (object path field : String) (rules : List Rule) :
    List Entry → Except Misuse (List Violation)
  | [] => .error (.unknownField object field)
  | ⟨name, _, value⟩ :: entries =>
    if name = field then
      if value.isPresent then value.findings object path field rules else .ok []
    else Entry.innerFindings object path field rules entries
termination_by structural entries => entries

/-- The violations in the clauses that a value holds.  Any other value cannot be looked into. -/
def Value.findings (object path field : String) (rules : List Rule) :
    Value → Except Misuse (List Violation)
  | .nested clause | .embedded clause =>
    (clause.findings path rules).bind fun given =>
      (clause.findings path clause.rules).map (given ++ ·)
  | .list items => Value.itemFindings object path field rules 0 items
  | value => .error (.misfit object field "Nested" value.kind)
termination_by structural value => value

/-- The violations in the clauses of a list, from a position on. -/
def Value.itemFindings (object path field : String) (rules : List Rule) (position : Nat) :
    List Value → Except Misuse (List Violation)
  | [] => .ok []
  | item :: items =>
    (item.clauseFindings object (itemPath path position) field rules).bind fun first =>
      (Value.itemFindings object path field rules (position + 1) items).map (first ++ ·)
termination_by structural items => items

/-- The violations in a clause of a list.  A list in a list cannot be looked into. -/
def Value.clauseFindings (object path field : String) (rules : List Rule) :
    Value → Except Misuse (List Violation)
  | .nested clause | .embedded clause =>
    (clause.findings path rules).bind fun given =>
      (clause.findings path clause.rules).map (given ++ ·)
  | item => .error (.misfit object field "Nested" item.kind)
termination_by structural item => item

end

/-- Every violation in a statement. -/
def Clause.violations (clause : Clause) : Except Misuse (List Violation) :=
  clause.findings clause.object clause.rules

/-- Accepts a statement without violations. -/
def Clause.validate (clause : Clause) : Except Rejection Unit :=
  match clause.violations with
  | .error misuse => .error (.misuse misuse)
  | .ok [] => .ok ()
  | .ok vs => .error (.violations vs)

/-- Accepts a statement that is there and has no violations. -/
def Clause.validate? : Option Clause → Except Rejection Unit
  | none => .error .noClause
  | some clause => clause.validate

end WarehouseAdmin
