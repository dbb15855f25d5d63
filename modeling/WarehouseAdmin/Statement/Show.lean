import WarehouseAdmin.Clause.Layout

/-!
# Statements that list objects

## Main definitions

* `Listed` — what can be listed.
* `Scope` — where the listed objects lie.
* `ShowObjects` — `SHOW`.
-/

namespace WarehouseAdmin

/-- What can be listed. -/
inductive Listed where
  | databases
  | schemas
  | tables
  | warehouses
  | userFunctions
  deriving DecidableEq

def Listed.keyword : Listed → String
  | .databases => "DATABASES"
  | .schemas => "SCHEMAS"
  | .tables => "TABLES"
  | .warehouses => "WAREHOUSES"
  | .userFunctions => "USER FUNCTIONS"

/-- Where the listed objects lie: in the account, a database or a schema. -/
structure Scope where
  account : Option Bool
  database : Option AccountScoped
  schema : Option DatabaseScoped
  deriving DecidableEq

namespace Scope

/-- The scope of which nothing is said. -/
def unset : Scope :=
  ⟨none, none, none⟩

def ofAccount : Scope :=
  { unset with account := some true }

def ofDatabase (id : AccountScoped) : Scope :=
  { unset with database := some id }

def ofSchema (id : DatabaseScoped) : Scope :=
  { unset with schema := some id }

end Scope

instance : Described Scope where
  layout :=
    { object := "In"
      fields :=
        [.toggle "account" "ACCOUNT" (·.account),
          .reference "database" "DATABASE" (·.database),
          .reference "schema" "SCHEMA" (·.schema)]
      rules :=
        [.exactlyOneOf ["account", "database", "schema"],
          .optionalIdentifier "database",
          .optionalIdentifier "schema"] }

/-- A `SHOW` statement. -/
structure ShowObjects where
  terse : Option Bool
  listed : Listed
  /-- A pattern for the names, with `%` and `_` as wildcards. -/
  pattern : Option String
  scope : Option Scope
  namesStart : Option String
  rows : Option Nat
  deriving DecidableEq

namespace ShowObjects

/-- The statement that says nothing but what is listed. -/
def of (listed : Listed) : ShowObjects :=
  ⟨none, listed, none, none, none, none⟩

def tersely (statement : ShowObjects) : ShowObjects :=
  { statement with terse := some true }

def like (pattern : String) (statement : ShowObjects) : ShowObjects :=
  { statement with pattern := some pattern }

def inScope (scope : Scope) (statement : ShowObjects) : ShowObjects :=
  { statement with scope := some scope }

/-- Lists only objects whose names start with a text. -/
def startsWith (start : String) (statement : ShowObjects) : ShowObjects :=
  { statement with namesStart := some start }

/-- Lists so many objects at most. -/
def limit (rows : Nat) (statement : ShowObjects) : ShowObjects :=
  { statement with rows := some rows }

end ShowObjects

instance : Described ShowObjects where
  layout :=
    { object := "ShowOptions"
      fields :=
        [.fixed "SHOW",
          .toggle "terse" "TERSE" (·.terse),
          ⟨"object_type", .keyword "", fun statement => .text statement.listed.keyword⟩,
          .operand "like" "LIKE" (·.pattern),
          ⟨"in_scope", .keyword "IN", fun statement => .ofRecord? statement.scope⟩,
          .operand "starts_with" "STARTS WITH" (·.namesStart),
          ⟨"limit", (Directive.parameter "LIMIT").withoutEquals,
            fun statement => .ofNat? statement.rows⟩]
      rules := [.nested "in_scope" []] }

end WarehouseAdmin
