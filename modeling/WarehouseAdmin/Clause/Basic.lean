import WarehouseAdmin.Identifier.Basic
import WarehouseAdmin.Text.Escaped

/-!
# Clauses

A statement is a tree of clauses.  A clause is named after the object it is about; it lists its
fields in the order in which they are written, each with its directive and its value, and it
declares rules.  The value of a field may be another clause or a list of them.

A clause inside a field is either `nested`, which is set whatever its fields hold, or `embedded`,
which is set only when one of its own fields is.

## Main definitions

* `Quoting`, `Link`, `Separator` — the choices a directive leaves open.
* `Directive` — how a field is written.
* `Directive.parameter`, `Directive.identifier`, `Directive.list` — directives with the usual
  choices, and the functions that change one choice.
* `Rule` — what the fields of a clause must obey.
* `Value`, `Entry`, `Clause` — the tree.
* `Value.isPresent`, `Clause.hasFieldsSet` — what counts as set.
* `Value.kind`, `Value.display` — values in messages.
-/

namespace WarehouseAdmin

/-! ## Directives

A directive says how a field is written when it has a value.
-/

/-- How a text is quoted. -/
inductive Quoting where
  /-- Between single quotes. -/
  | single
  /-- Between double quotes. -/
  | double
  /-- Between two dollar signs on each side. -/
  | dollar
  /-- As it is. -/
  | bare
  deriving DecidableEq

/-- What stands between a name and its value. -/
inductive Link where
  /-- An equals sign, as in `COMMENT = 'x'`. -/
  | equals
  /-- A space, as in `LIKE 'x'`. -/
  | space
  deriving DecidableEq

/-- What stands between the elements of a list. -/
inductive Separator where
  | comma
  | space
  deriving DecidableEq

def Separator.text : Separator → String
  | .comma => ", "
  | .space => " "

/-- How a field is written. -/
inductive Directive where
  /-- A fixed text, which is always written. -/
  | fixed (text : String)
  /-- A keyword, alone or in front of a value; the value `false` suppresses it. -/
  | keyword (text : String)
  /-- A named value; it may have an empty name. -/
  | named (name : String) (quoting : Quoting) (link : Link)
  /-- A named identifier; it may have an empty name. -/
  | reference (name : String) (link : Link)
  /-- A sequence of elements. -/
  | sequence (separator : Separator) (parenthesized : Bool)
  deriving DecidableEq

namespace Directive

/-- The kind of a directive, as it is called in messages. -/
def kind : Directive → String
  | .fixed _ => "static"
  | .keyword _ => "keyword"
  | .named .. => "parameter"
  | .reference .. => "identifier"
  | .sequence .. => "list"

/-! ### Directives with the usual choices -/

/-- A value as it is behind its name and an equals sign. -/
def parameter (name : String) : Directive :=
  .named name .bare .equals

/-- An identifier without a name. -/
def identifier : Directive :=
  .reference "" .space

/-- An identifier behind its name and an equals sign. -/
def namedIdentifier (name : String) : Directive :=
  .reference name .equals

/-- Elements with commas between them. -/
def list : Directive :=
  .sequence .comma false

/-! ### Changing one choice

A choice that a directive does not have is not changed. -/

/-- Quotes a parameter. -/
def quoted (quoting : Quoting) : Directive → Directive
  | .named name _ link => .named name quoting link
  | directive => directive

/-- Writes a space for the equals sign of a parameter or an identifier. -/
def withoutEquals : Directive → Directive
  | .named name quoting _ => .named name quoting .space
  | .reference name _ => .reference name .space
  | directive => directive

/-- Writes a list in parentheses. -/
def inParentheses : Directive → Directive
  | .sequence separator _ => .sequence separator true
  | directive => directive

/-- Writes spaces for the commas of a list. -/
def spaceSeparated : Directive → Directive
  | .sequence _ parenthesized => .sequence .space parenthesized
  | directive => directive

end Directive

/-! ## Rules

A clause declares rules about which of its fields must or may be set together, and about the clauses
inside them.
-/

/-- A rule about the fields of a clause. -/
inductive Rule where
  /-- The field must be set. -/
  | required (field : String)
  /-- The identifiers in the field must be valid; an optional field may be unset. -/
  | validIdentifier (field : String) (optional : Bool)
  | exactlyOneOf (fields : List String)
  | atLeastOneOf (fields : List String)
  /-- At most one of the fields may be set. -/
  | conflicting (fields : List String)
  /-- The clauses in the field must obey the rules given here and then their own. -/
  | nested (field : String) (rules : List Rule)

namespace Rule

/-- The fields that a rule is about. -/
def fields : Rule → List String
  | .required field => [field]
  | .validIdentifier field _ => [field]
  | .exactlyOneOf fields => fields
  | .atLeastOneOf fields => fields
  | .conflicting fields => fields
  | .nested field _ => [field]

/-- The identifier in the field must be set and valid. -/
def identifier (field : String) : Rule :=
  .validIdentifier field false

/-- The identifier in the field must be valid if it is set. -/
def optionalIdentifier (field : String) : Rule :=
  .validIdentifier field true

end Rule

/-! ## The tree -/

mutual

/-- The value of a field. -/
inductive Value where
  | absent
  | flag (b : Bool)
  | text (s : String)
  | number (n : Int)
  | identifier (id : Identifier)
  /-- A clause that is set whatever its fields hold. -/
  | nested (clause : Clause)
  /-- A clause that is set only when one of its fields is. -/
  | embedded (clause : Clause)
  | list (items : List Value)

/-- A field of a clause: its name, how it is written and what it holds. -/
structure Entry where
  field : String
  directive : Directive
  value : Value

/-- A named sequence of fields with the rules they obey. -/
structure Clause where
  object : String
  entries : List Entry
  rules : List Rule

end

mutual

/-- Whether a value counts as set. -/
def Value.isPresent : Value → Bool
  | .absent => false
  | .list items => !items.isEmpty
  | .embedded clause => clause.hasFieldsSet
  | _ => true
termination_by structural value => value

/-- Whether any field of a clause is set. -/
def Clause.hasFieldsSet : Clause → Bool
  | ⟨_, entries, _⟩ => Entry.anyPresent entries
termination_by structural clause => clause

/-- Whether any of some fields is set. -/
def Entry.anyPresent : List Entry → Bool
  | [] => false
  | ⟨_, _, value⟩ :: entries => value.isPresent || Entry.anyPresent entries
termination_by structural entries => entries

end

namespace Value

/-- The kind of a value, as it is called in messages. -/
def kind : Value → String
  | .absent => "absent"
  | .flag _ => "bool"
  | .text _ => "text"
  | .number _ => "number"
  | .identifier _ => "identifier"
  | .nested _ => "nested"
  | .embedded _ => "embedded"
  | .list _ => "list"

/-! ### Values as text

`display` shows a value to a person.  Clauses inside it are shown by their names. -/

mutual

def display : Value → String
  | .absent => "Absent"
  | .flag b => "Bool(" ++ (if b then "true" else "false") ++ ")"
  | .text s => "Text(" ++ Text.escaped s ++ ")"
  | .number n => "Number(" ++ toString n ++ ")"
  | .identifier id => "Identifier(" ++ id.text ++ ")"
  | .nested clause => "Nested(" ++ clause.object ++ ")"
  | .embedded clause => "Embedded(" ++ clause.object ++ ")"
  | .list items => "[" ++ ", ".intercalate (displayAll items) ++ "]"
termination_by structural value => value

def displayAll : List Value → List String
  | [] => []
  | item :: items => item.display :: displayAll items
termination_by structural items => items

end

/-! ### Values from typed fields

A field that is not set has no value. -/

def ofFlag? (b : Option Bool) : Value :=
  b.elim .absent .flag

def ofText? (s : Option String) : Value :=
  s.elim .absent .text

def ofNat? (n : Option Nat) : Value :=
  n.elim .absent fun n => .number n

def ofIdentifier? {α : Type} [Coe α Identifier] (id : Option α) : Value :=
  id.elim .absent fun id => .identifier id

def ofTexts (items : List String) : Value :=
  .list (items.map .text)

end Value

/-- The first field of that name. -/
def Clause.entry? (clause : Clause) (field : String) : Option Entry :=
  clause.entries.find? (·.field == field)

end WarehouseAdmin
