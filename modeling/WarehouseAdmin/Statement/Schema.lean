import WarehouseAdmin.Clause.Layout

/-!
# Statements about schemas
-/

namespace WarehouseAdmin

/-- A `CREATE SCHEMA` statement. -/
structure CreateSchema where
  orReplace : Option Bool
  transient : Option Bool
  ifNotExists : Option Bool
  name : DatabaseScoped
  /-- The schema that the new one is a clone of. -/
  clone : Option DatabaseScoped
  managedAccess : Option Bool
  dataRetention : Option Nat
  comment : Option String
  tags : List TagValue
  deriving DecidableEq

namespace CreateSchema

/-- The statement that says nothing but the name. -/
def ofName (name : DatabaseScoped) : CreateSchema :=
  ⟨none, none, none, name, none, none, none, none, []⟩

def replacing (statement : CreateSchema) : CreateSchema :=
  { statement with orReplace := some true }

def unlessExists (statement : CreateSchema) : CreateSchema :=
  { statement with ifNotExists := some true }

def withManagedAccess (statement : CreateSchema) : CreateSchema :=
  { statement with managedAccess := some true }

/-- Adds a tag behind the others. -/
def withTag (tag : TagValue) (statement : CreateSchema) : CreateSchema :=
  { statement with tags := statement.tags ++ [tag] }

end CreateSchema

instance : Described CreateSchema where
  layout :=
    { object := "CreateSchemaOptions"
      fields :=
        [.fixed "CREATE",
          .toggle "or_replace" "OR REPLACE" (·.orReplace),
          .toggle "transient" "TRANSIENT" (·.transient),
          .fixed "SCHEMA",
          .toggle "if_not_exists" "IF NOT EXISTS" (·.ifNotExists),
          .identifier "name" (·.name),
          .reference "clone" "CLONE" (·.clone),
          .toggle "with_managed_access" "WITH MANAGED ACCESS" (·.managedAccess),
          .number "data_retention_time_in_days" "DATA_RETENTION_TIME_IN_DAYS" (·.dataRetention),
          .literal "comment" "COMMENT" (·.comment),
          .tags (·.tags)]
      rules :=
        [.identifier "name",
          .optionalIdentifier "clone",
          .conflicting ["or_replace", "if_not_exists"],
          .nested "tag" []] }

end WarehouseAdmin
