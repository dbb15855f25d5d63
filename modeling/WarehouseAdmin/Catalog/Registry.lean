import WarehouseAdmin.Catalog.Failure
import WarehouseAdmin.Identifier.Json

/-!
# Registries

A registry is a catalog held in memory: it knows some databases and schemas by name.  It keeps the
hierarchy of the account: a schema is registered only together with its database, and a database is
removed only together with its schemas.

## Main definitions

* `DatabaseInfo`, `SchemaInfo` — what the account says of a database and of a schema.
* `Registry` — the databases and schemas that are known.
* `Registry.addDatabase`, `Registry.addSchema`, `Registry.ofNames` — registering them.
* `Registry.removeDatabase`, `Registry.removeSchema` — removing one.
* `Registry.showDatabase`, `Registry.showSchema`, `Registry.probe` — looking one up.
-/

namespace WarehouseAdmin

/-! ## Databases and schemas as the account describes them -/

/-- What the account says of a database. -/
structure DatabaseInfo where
  name : AccountScoped
  owner : Option String
  comment : Option String
  isTransient : Bool
  deriving DecidableEq

/-- What the account says of a schema. -/
structure SchemaInfo where
  name : DatabaseScoped
  owner : Option String
  comment : Option String
  isManagedAccess : Bool
  deriving DecidableEq

namespace DatabaseInfo

/-- A database of which nothing but the name is known. -/
def ofName (name : AccountScoped) : DatabaseInfo :=
  ⟨name, none, none, false⟩

def toJson (info : DatabaseInfo) : Json :=
  .ofMembers
    [("name", info.name.toJson), ("owner", .ofString? info.owner),
      ("comment", .ofString? info.comment), ("is_transient", .bool info.isTransient)]

/-- The owner and the comment may be missing. -/
def ofJson? (document : Json) : Option DatabaseInfo :=
  match document.record? ["name", "owner", "comment", "is_transient"] with
  | some [some name, owner, comment, some isTransient] => do
    return ⟨← AccountScoped.ofJson? name, ← (owner.getD .null).optionalText?,
      ← (comment.getD .null).optionalText?, ← isTransient.bool?⟩
  | _ => none

end DatabaseInfo

namespace SchemaInfo

/-- A schema of which nothing but the name is known. -/
def ofName (name : DatabaseScoped) : SchemaInfo :=
  ⟨name, none, none, false⟩

/-- The database that holds the schema. -/
def database (info : SchemaInfo) : AccountScoped :=
  info.name.databaseId

def toJson (info : SchemaInfo) : Json :=
  .ofMembers
    [("name", info.name.toJson), ("owner", .ofString? info.owner),
      ("comment", .ofString? info.comment), ("is_managed_access", .bool info.isManagedAccess)]

/-- The owner and the comment may be missing. -/
def ofJson? (document : Json) : Option SchemaInfo :=
  match document.record? ["name", "owner", "comment", "is_managed_access"] with
  | some [some name, owner, comment, some isManagedAccess] => do
    return ⟨← DatabaseScoped.ofJson? name, ← (owner.getD .null).optionalText?,
      ← (comment.getD .null).optionalText?, ← isManagedAccess.bool?⟩
  | _ => none

end SchemaInfo

/-! ## Registries -/

/-- The databases and schemas that are known, at most one of each name. -/
structure Registry where
  databases : List DatabaseInfo
  schemas : List SchemaInfo

namespace Registry

def empty : Registry :=
  ⟨[], []⟩

def database? (registry : Registry) (id : AccountScoped) : Option DatabaseInfo :=
  registry.databases.find? (·.name = id)

def schema? (registry : Registry) (id : DatabaseScoped) : Option SchemaInfo :=
  registry.schemas.find? (·.name = id)

def hasDatabase (registry : Registry) (id : AccountScoped) : Bool :=
  (registry.database? id).isSome

def hasSchema (registry : Registry) (id : DatabaseScoped) : Bool :=
  (registry.schema? id).isSome

/-- Registers a database in the place of what was known under its name. -/
def addDatabase (registry : Registry) (info : DatabaseInfo) : Registry :=
  { registry with
    databases := info :: registry.databases.filter (·.name ≠ info.name) }

/-- Registers a schema in the place of what was known under its name, and its database if that is
not known. -/
def addSchema (registry : Registry) (info : SchemaInfo) : Registry :=
  let withDatabase :=
    if registry.hasDatabase info.database then registry
    else registry.addDatabase (.ofName info.database)
  { withDatabase with
    schemas := info :: withDatabase.schemas.filter (·.name ≠ info.name) }

/-- The registry that knows no more than the names of some databases and schemas. -/
def ofNames (databases : List AccountScoped) (schemas : List DatabaseScoped) : Registry :=
  let withDatabases := databases.foldl (fun registry id => registry.addDatabase (.ofName id)) empty
  schemas.foldl (fun registry id => registry.addSchema (.ofName id)) withDatabases

/-- Removes a database with its schemas. -/
def removeDatabase (registry : Registry) (id : AccountScoped) : Registry where
  databases := registry.databases.filter (·.name ≠ id)
  schemas := registry.schemas.filter (·.database ≠ id)

/-- Removes a schema. -/
def removeSchema (registry : Registry) (id : DatabaseScoped) : Registry :=
  { registry with schemas := registry.schemas.filter (·.name ≠ id) }

/-- What is known of a database. -/
def showDatabase (registry : Registry) (id : AccountScoped) : Except Failure DatabaseInfo :=
  match registry.database? id with
  | some info => .ok info
  | none => .error (.notFound (Identifier.account id).text)

/-- What is known of a schema. -/
def showSchema (registry : Registry) (id : DatabaseScoped) : Except Failure SchemaInfo :=
  match registry.schema? id with
  | some info => .ok info
  | none => .error (.notFound (Identifier.database id).text)

/-- Whether a container is known. -/
def probe (registry : Registry) : Container → Except Failure Unit
  | .database id => (registry.showDatabase id).map fun _ => ()
  | .schema id => (registry.showSchema id).map fun _ => ()

end Registry

end WarehouseAdmin
