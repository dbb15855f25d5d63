import WarehouseAdmin.Identifier.Reader
import WarehouseAdmin.Json.Reader
import WarehouseAdmin.Operation.Context

/-!
# Configuration

A session is configured with the account, the defaults of the session, a limit for the time of each
call, and what is logged.  A configuration can be written as a JSON document of its own or as a
section of a larger one.

## Main definitions

* `Config` — a configuration.
* `Config.validate` — whether a session can be opened with it.
* `Config.ofText`, `Config.ofSettings?` — a configuration read from JSON.
-/

namespace WarehouseAdmin

/-- How a session is configured. -/
structure Config where
  account : String
  role : Option String
  warehouse : Option String
  defaultDatabase : Option String
  /-- How many seconds each statement and each lookup may take. -/
  timeoutSeconds : Nat
  logsQueries : Bool
  logFilter : String
  deriving DecidableEq

/-- Why a configuration cannot be used. -/
inductive ConfigError where
  | missingAccount
  | zeroTimeout
  /-- The default in a field is no name of an object in the account. -/
  | malformedDefault (field : String) (source : Identifier.Malformed)
  /-- The text is no configuration. -/
  | unreadable
  deriving DecidableEq

def ConfigError.message : ConfigError → String
  | .missingAccount => "Account identifier is required"
  | .zeroTimeout => "Query timeout must be greater than zero"
  | .malformedDefault field source =>
    "Invalid identifier in '" ++ field ++ "': " ++ source.message
  | .unreadable => "Failed to parse configuration"

namespace Config

/-- The configuration in which nothing has been said. -/
def unset : Config where
  account := ""
  role := none
  warehouse := none
  defaultDatabase := none
  timeoutSeconds := 30
  logsQueries := false
  logFilter := "info"

/-- The configuration in which nothing has been said but the account. -/
def ofAccount (account : String) : Config :=
  { unset with account := account }

def withRole (role : String) (config : Config) : Config :=
  { config with role := some role }

def withWarehouse (warehouse : String) (config : Config) : Config :=
  { config with warehouse := some warehouse }

def withDefaultDatabase (database : String) (config : Config) : Config :=
  { config with defaultDatabase := some database }

def withTimeout (seconds : Nat) (config : Config) : Config :=
  { config with timeoutSeconds := seconds }

def withQueriesLogged (isOn : Bool) (config : Config) : Config :=
  { config with logsQueries := isOn }

def withLogFilter (filter : String) (config : Config) : Config :=
  { config with logFilter := filter }

/-! ## Use -/

/-- The default in a field as a name, if there is one. -/
def defaultId (field : String) : Option String → Except ConfigError (Option AccountScoped)
  | none => .ok none
  | some text =>
    match AccountScoped.ofText text with
    | .ok id => .ok (some id)
    | .error source => .error (.malformedDefault field source)

/-- The name of the default database. -/
def defaultDatabaseId (config : Config) : Except ConfigError (Option AccountScoped) :=
  defaultId "defaultDatabase" config.defaultDatabase

/-- The name of the default warehouse. -/
def warehouseId (config : Config) : Except ConfigError (Option AccountScoped) :=
  defaultId "warehouse" config.warehouse

/-- Accepts a configuration with an account, a positive limit and well-formed defaults. -/
def validate (config : Config) : Except ConfigError Unit := do
  if config.account.toList.all Text.isBlank then throw .missingAccount
  if config.timeoutSeconds = 0 then throw .zeroTimeout
  let _ ← config.defaultDatabaseId
  let _ ← config.warehouseId

/-- The limit for the time of each call, in milliseconds. -/
def limitMillis (config : Config) : Nat :=
  config.timeoutSeconds * 1000

/-- A context that begins at an instant and has the configured limit. -/
def contextAt (config : Config) (now : Nat) : Context :=
  .startAt now (some config.limitMillis)

/-! ## JSON -/

/-- The fields of a written configuration, in order. -/
def fieldNames : List String :=
  ["account", "role", "warehouse", "defaultDatabase", "queryTimeoutSecs", "logQueries", "logFilter"]

def toJson (config : Config) : Json :=
  .ofMembers
    [("account", .ofString config.account),
      ("role", .ofString? config.role),
      ("warehouse", .ofString? config.warehouse),
      ("defaultDatabase", .ofString? config.defaultDatabase),
      ("queryTimeoutSecs", .ofInt config.timeoutSeconds),
      ("logQueries", .bool config.logsQueries),
      ("logFilter", .ofString config.logFilter)]

/-- A field that takes a default when it is not written. -/
def read? {α : Type} (decode : Json → Option α) (default : α) : Option Json → Option α
  | none => some default
  | some document => decode document

/-- A number of seconds fits into sixty-four bits. -/
def seconds? (document : Json) : Option Nat :=
  document.nat?.filter (· < UInt64.size)

/-- The configuration with the given fields; those that are not written take their defaults. -/
def ofFields? : List (Option Json) → Option Config
  | [account, role, warehouse, defaultDatabase, timeout, logsQueries, logFilter] => do
    return {
      account := ← read? Json.text? unset.account account
      role := ← read? Json.optionalText? unset.role role
      warehouse := ← read? Json.optionalText? unset.warehouse warehouse
      defaultDatabase := ← read? Json.optionalText? unset.defaultDatabase defaultDatabase
      timeoutSeconds := ← read? seconds? unset.timeoutSeconds timeout
      logsQueries := ← read? Json.bool? unset.logsQueries logsQueries
      logFilter := ← read? Json.text? unset.logFilter logFilter }
  | _ => none

/-- The configuration that a document is: an object with some of the fields, or an array of the
first of them.  Other members of an object do not count. -/
def ofJson? : Json → Option Config
  | .object members => ofFields? (fieldNames.map fun name => (Json.object members).member? name)
  | .array items =>
    ofFields? (items.map some ++ List.replicate (fieldNames.length - items.length) none)
  | _ => none

/-- Whether an object names its members in a readable way: every name spells a text, and no field is
written twice. -/
def isWellNamed : Json → Bool
  | .object members =>
    members.all (·.1.isSome) &&
      fieldNames.all fun name => (members.countP fun member => member.1 = some name) ≤ 1
  | _ => true

/-- The configuration that a text is. -/
def ofText (s : String) : Except ConfigError Config :=
  match Json.read? s with
  | some document =>
    if isWellNamed document then
      match ofJson? document with
      | some config => .ok config
      | none => .error .unreadable
    else .error .unreadable
  | none => .error .unreadable

/-- The member of a settings document that holds the configuration. -/
def settingsSection : String := "warehouseSql"

/-- The configuration in a settings document, if it is there and readable. -/
def ofSettings? (settings : Json) : Option Config :=
  (settings.member? settingsSection).bind ofJson?

end Config

end WarehouseAdmin
