import WarehouseAdmin.Clause.Basic

/-!
# Layouts

The clauses of one kind of statement all look alike: the same fields in the same order, the same
rules, and values that are read off a record.  A layout says this once for the kind, and turns every
record into its clause.

## Main definitions

* `Layout.Field`, `Layout` — the fields and rules of the clauses of one kind.
* `Layout.clause` — a record as a clause.
* `Described` — records with a layout of their own, and `Described.clause`, `Value.ofRecord?`,
  `Value.ofRecords`, which use it.
* `TagValue`, `Layout.Field.tags` — tags, and the field that holds them.
-/

namespace WarehouseAdmin

/-- A field of every clause of a kind, and how its value is read off a record. -/
structure Layout.Field (α : Type) where
  name : String
  directive : Directive
  read : α → Value

/-- The fields and rules of the clauses that stand for records of type `α`. -/
structure Layout (α : Type) where
  object : String
  fields : List (Layout.Field α)
  rules : List Rule

namespace Layout

variable {α : Type}

/-- A record as a clause. -/
def clause (layout : Layout α) (record : α) : Clause where
  object := layout.object
  entries := layout.fields.map fun field => ⟨field.name, field.directive, field.read record⟩
  rules := layout.rules

/-- The first field of that name. -/
def field? (layout : Layout α) (name : String) : Option (Field α) :=
  layout.fields.find? (·.name == name)

namespace Field

/-- A fixed text; the field is called by it and holds nothing. -/
def fixed (text : String) : Field α :=
  ⟨text, .fixed text, fun _ => .absent⟩

/-- A keyword that a flag turns on. -/
def toggle (name keyword : String) (read : α → Option Bool) : Field α :=
  ⟨name, .keyword keyword, fun record => .ofFlag? (read record)⟩

/-- An identifier without a name in front. -/
def identifier (name : String) (read : α → Identifier) : Field α :=
  ⟨name, .identifier, fun record => .identifier (read record)⟩

/-- An identifier that may be unset, behind a name and a space. -/
def reference {β : Type} [Coe β Identifier] (name keyword : String) (read : α → Option β) :
    Field α :=
  ⟨name, (Directive.namedIdentifier keyword).withoutEquals,
    fun record => .ofIdentifier? (read record)⟩

/-- A text between single quotes behind a name and an equals sign. -/
def literal (name keyword : String) (read : α → Option String) : Field α :=
  ⟨name, (Directive.parameter keyword).quoted .single, fun record => .ofText? (read record)⟩

/-- A text between single quotes behind a name and a space. -/
def operand (name keyword : String) (read : α → Option String) : Field α :=
  ⟨name, ((Directive.parameter keyword).quoted .single).withoutEquals,
    fun record => .ofText? (read record)⟩

/-- A text as it is behind a name and a space. -/
def expression (name keyword : String) (read : α → Option String) : Field α :=
  ⟨name, (Directive.parameter keyword).withoutEquals, fun record => .ofText? (read record)⟩

/-- A text as it is, without a name in front. -/
def raw (name : String) (read : α → String) : Field α :=
  ⟨name, .parameter "", fun record => .text (read record)⟩

/-- A number behind a name and an equals sign. -/
def number (name keyword : String) (read : α → Option Nat) : Field α :=
  ⟨name, .parameter keyword, fun record => .ofNat? (read record)⟩

/-- A truth value behind a name and an equals sign. -/
def flag (name keyword : String) (read : α → Option Bool) : Field α :=
  ⟨name, .parameter keyword, fun record => .ofFlag? (read record)⟩

end Field

end Layout

/-- Records of one kind of statement, or of a part of one. -/
class Described (α : Type) where
  layout : Layout α

namespace Described

variable {α : Type} [Described α]

/-- A record as a clause of its kind. -/
def clause (record : α) : Clause :=
  layout.clause record

end Described

/-- A record that may be unset, as a nested clause. -/
def Value.ofRecord? {α : Type} [Described α] (record : Option α) : Value :=
  record.elim .absent fun record => .nested (Described.clause record)

/-- Records as a list of nested clauses. -/
def Value.ofRecords {α : Type} [Described α] (records : List α) : Value :=
  .list (records.map fun record => .nested (Described.clause record))

/-! ## Tags

A statement that creates an object can give it tags, each with a value.
-/

/-- A tag and the value it gets. -/
structure TagValue where
  name : SchemaScoped
  value : String
  deriving DecidableEq

instance : Described TagValue where
  layout :=
    { object := "TagAssociation"
      fields :=
        [.identifier "name" (·.name),
          .fixed "=",
          ⟨"value", (Directive.parameter "").quoted .single, fun tag => .text tag.value⟩]
      rules := [.identifier "name"] }

/-- The tags of a record. -/
def Layout.Field.tags {α : Type} (read : α → List TagValue) : Layout.Field α :=
  ⟨"tag", (Directive.parameter "TAG").withoutEquals, fun record => .ofRecords (read record)⟩

end WarehouseAdmin
