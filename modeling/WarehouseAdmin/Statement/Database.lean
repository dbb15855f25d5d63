import WarehouseAdmin.Clause.Layout

/-!
# Statements about databases

## Main definitions

* `DatabaseProperty`, `DatabaseProperties` — what can be set on a database and unset again.
* `CreateDatabase`, `DatabaseClone` — `CREATE DATABASE`.
* `AlterDatabase` — `ALTER DATABASE`.
-/

namespace WarehouseAdmin

/-- What can be set on a database. -/
inductive DatabaseProperty where
  | dataRetention
  | maxDataExtension
  | defaultDdlCollation
  | comment
  deriving DecidableEq

def DatabaseProperty.keyword : DatabaseProperty → String
  | .dataRetention => "DATA_RETENTION_TIME_IN_DAYS"
  | .maxDataExtension => "MAX_DATA_EXTENSION_TIME_IN_DAYS"
  | .defaultDdlCollation => "DEFAULT_DDL_COLLATION"
  | .comment => "COMMENT"

/-- Values of the properties that are to be set on a database. -/
structure DatabaseProperties where
  dataRetention : Option Nat
  maxDataExtension : Option Nat
  defaultDdlCollation : Option String
  comment : Option String
  deriving DecidableEq

namespace DatabaseProperties

/-- No property is to be set. -/
def none : DatabaseProperties :=
  ⟨.none, .none, .none, .none⟩

/-- The properties as fields of a record that holds them. -/
def fields {α : Type} (read : α → DatabaseProperties) : List (Layout.Field α) :=
  [.number "data_retention_time_in_days" DatabaseProperty.dataRetention.keyword
      fun record => (read record).dataRetention,
    .number "max_data_extension_time_in_days" DatabaseProperty.maxDataExtension.keyword
      fun record => (read record).maxDataExtension,
    .literal "default_ddl_collation" DatabaseProperty.defaultDdlCollation.keyword
      fun record => (read record).defaultDdlCollation,
    .literal "comment" DatabaseProperty.comment.keyword fun record => (read record).comment]

end DatabaseProperties

instance : Described DatabaseProperties where
  layout :=
    { object := "DatabaseSet"
      fields := DatabaseProperties.fields id
      rules := [] }

/-- The database that a new one is a clone of. -/
structure DatabaseClone where
  source : AccountScoped
  deriving DecidableEq

instance : Described DatabaseClone where
  layout :=
    { object := "DatabaseClone"
      fields := [.identifier "source" (·.source)]
      rules := [.identifier "source"] }

/-! ## Creating a database -/

/-- A `CREATE DATABASE` statement. -/
structure CreateDatabase where
  orReplace : Option Bool
  transient : Option Bool
  ifNotExists : Option Bool
  name : AccountScoped
  clone : Option DatabaseClone
  properties : DatabaseProperties
  tags : List TagValue
  deriving DecidableEq

namespace CreateDatabase

/-- The statement that says nothing but the name. -/
def ofName (name : AccountScoped) : CreateDatabase :=
  ⟨none, none, none, name, none, .none, []⟩

def replacing (statement : CreateDatabase) : CreateDatabase :=
  { statement with orReplace := some true }

def unlessExists (statement : CreateDatabase) : CreateDatabase :=
  { statement with ifNotExists := some true }

def asTransient (statement : CreateDatabase) : CreateDatabase :=
  { statement with transient := some true }

def clonedFrom (source : AccountScoped) (statement : CreateDatabase) : CreateDatabase :=
  { statement with clone := some ⟨source⟩ }

def withComment (comment : String) (statement : CreateDatabase) : CreateDatabase :=
  { statement with properties := { statement.properties with comment := some comment } }

end CreateDatabase

instance : Described CreateDatabase where
  layout :=
    { object := "CreateDatabaseOptions"
      fields :=
        [.fixed "CREATE",
          .toggle "or_replace" "OR REPLACE" (·.orReplace),
          .toggle "transient" "TRANSIENT" (·.transient),
          .fixed "DATABASE",
          .toggle "if_not_exists" "IF NOT EXISTS" (·.ifNotExists),
          .identifier "name" (·.name),
          ⟨"clone", .keyword "CLONE", fun statement => .ofRecord? statement.clone⟩] ++
        DatabaseProperties.fields (·.properties) ++
        [.tags (·.tags)]
      rules :=
        [.identifier "name",
          .conflicting ["or_replace", "if_not_exists"],
          .nested "clone" [],
          .nested "tag" []] }

/-! ## Altering a database -/

/-- An `ALTER DATABASE` statement. -/
structure AlterDatabase where
  ifExists : Option Bool
  name : AccountScoped
  newName : Option AccountScoped
  swapsWith : Option AccountScoped
  sets : Option DatabaseProperties
  unsets : List DatabaseProperty
  deriving DecidableEq

namespace AlterDatabase

/-- The statement that says nothing but the name. -/
def ofName (name : AccountScoped) : AlterDatabase :=
  ⟨none, name, none, none, none, []⟩

def onlyIfExists (statement : AlterDatabase) : AlterDatabase :=
  { statement with ifExists := some true }

def renameTo (newName : AccountScoped) (statement : AlterDatabase) : AlterDatabase :=
  { statement with newName := some newName }

def swapWith (other : AccountScoped) (statement : AlterDatabase) : AlterDatabase :=
  { statement with swapsWith := some other }

def set (properties : DatabaseProperties) (statement : AlterDatabase) : AlterDatabase :=
  { statement with sets := some properties }

def unset (properties : List DatabaseProperty) (statement : AlterDatabase) : AlterDatabase :=
  { statement with unsets := properties }

end AlterDatabase

instance : Described AlterDatabase where
  layout :=
    { object := "AlterDatabaseOptions"
      fields :=
        [.fixed "ALTER DATABASE",
          .toggle "if_exists" "IF EXISTS" (·.ifExists),
          .identifier "name" (·.name),
          .reference "new_name" "RENAME TO" (·.newName),
          .reference "swap_with" "SWAP WITH" (·.swapsWith),
          ⟨"set", .keyword "SET", fun statement => .ofRecord? statement.sets⟩,
          ⟨"unset", .keyword "UNSET",
            fun statement => .ofTexts (statement.unsets.map (·.keyword))⟩]
      rules :=
        [.identifier "name",
          .optionalIdentifier "new_name",
          .optionalIdentifier "swap_with",
          .exactlyOneOf ["new_name", "swap_with", "set", "unset"],
          .nested "set"
            [.atLeastOneOf
              ["data_retention_time_in_days", "max_data_extension_time_in_days",
                "default_ddl_collation", "comment"]]] }

end WarehouseAdmin
