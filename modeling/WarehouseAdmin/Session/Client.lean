import WarehouseAdmin.Catalog.Operation
import WarehouseAdmin.Catalog.Recovery
import WarehouseAdmin.Check.Walk
import WarehouseAdmin.Session.Config
import WarehouseAdmin.Sql.Statement
import WarehouseAdmin.Statement.Drop

/-!
# Sessions

A client turns statements into text and sends them.  A statement is checked first, then written, and
only then sent; one that is rejected or cannot be written leaves no trace.  Drops and lookups
recover from ambiguous failures by probing the catalog.

A session is what happens: the context with what the catalog was asked, the statements that were
sent, and the answers that are still to come.

## Main definitions

* `SessionError` — why a request of a client was not met.
* `Session` — what has been sent and asked.
* `Catalog` — what can be asked about the account.
* `Client`, `Client.ofConfig` — a client with a valid configuration.
* `Client.prepare`, `Client.execute`, `Client.drop`, `Client.showDatabase`, `Client.showSchema` —
  the requests.
-/

namespace WarehouseAdmin

/-- Why a request of a client was not met. -/
inductive SessionError where
  | config (error : ConfigError)
  | identifier (error : Identifier.Malformed)
  | rejection (error : Rejection)
  | sql (error : SqlError)
  | failure (error : Failure)
  deriving DecidableEq

/-- Whether a request was not met because of a failure with a cause of that kind. -/
def SessionError.contains (error : SessionError) (k : Cause.Kind) : Bool :=
  match error with
  | .failure f => f.contains k
  | _ => false

/-- What has happened since a session began. -/
structure Session where
  journal : Journal
  /-- The statements that were sent, in order. -/
  sent : List String
  /-- How the next statements will be answered; after the last one, each succeeds. -/
  answers : List (Except Failure Unit)

namespace Session

/-- Works on the context and the record of what the catalog was asked. -/
def inJournal {α : Type} (action : StateM Journal α) : StateM Session α := fun session =>
  let (a, journal) := action session.journal
  (a, { session with journal := journal })

/-- Changes the context. -/
def changeContext (change : Context → Context) (session : Session) : Session :=
  { session with
    journal := { session.journal with context := change session.journal.context } }

/-- Sends a statement.  In a context that has been called off it is not sent. -/
def send (sql : String) : StateM Session (Except Failure Unit) := fun session =>
  let (answer, after) :=
    session.journal.context.run (.immediate (session.answers.headD (.ok ())))
  if session.journal.context.isCancelled then (answer, session)
  else
    (answer,
      { journal := { session.journal with context := after }
        sent := session.sent ++ [sql]
        answers := session.answers.tail })

/-- Asks for a container by a call, which may depend on what has happened. -/
def ask {α : Type} (container : Container) (call : Session → Call α) :
    StateM Session (Except Failure α) := fun session =>
  inJournal (Journal.run container (call session)) session

end Session

/-- Catalogs tell of the databases and schemas of the account.  What a catalog answers, and when,
may depend on all that has happened in the session. -/
class Catalog (κ : Type) where
  databaseCall : κ → AccountScoped → Session → Call DatabaseInfo
  schemaCall : κ → DatabaseScoped → Session → Call SchemaInfo

instance : Catalog ScriptedCatalog where
  databaseCall catalog id _ := catalog.call (.database id) (catalog.registry.showDatabase id)
  schemaCall catalog id _ := catalog.call (.schema id) (catalog.registry.showSchema id)

/-- What a client works with. -/
structure Client (κ : Type := ScriptedCatalog) where
  config : Config
  /-- How deep the clauses of a statement may nest. -/
  nestingLimit : Nat
  catalog : κ

namespace Client

variable {κ : Type}

/-- The client with a configuration, if the configuration is valid. -/
def ofConfig (config : Config) (catalog : κ) : Except SessionError (Client κ) :=
  match config.validate with
  | .ok () => .ok ⟨config, Nesting.defaultLimit, catalog⟩
  | .error e => .error (.config e)

/-- A session at instant zero, with the answers to come. -/
def start (client : Client κ) (answers : List (Except Failure Unit)) : Session :=
  ⟨⟨client.config.contextAt 0, []⟩, [], answers⟩

/-- Goes on in a new context. -/
def renewContext (client : Client κ) (session : Session) : Session :=
  session.changeContext fun context => client.config.contextAt context.now

/-- Checks a statement and writes it. -/
def prepare (client : Client κ) (statement : Clause) : Except SessionError String :=
  match statement.validate with
  | .error e => .error (.rejection e)
  | .ok () =>
    match statement.sql client.nestingLimit with
    | .error e => .error (.sql e)
    | .ok sql => .ok sql

theorem prepare_eq_ok_iff {client : Client κ} {statement : Clause} {sql : String} :
    client.prepare statement = .ok sql ↔
      statement.validate = .ok () ∧ statement.sql client.nestingLimit = .ok sql := by
  rw [prepare]
  cases statement.validate with
  | error e => simp
  | ok =>
      cases statement.sql client.nestingLimit with
      | error e => simp
      | ok sql => simp

/-- A statement that is rejected is not written. -/
theorem prepare_eq_error_iff {client : Client κ} {statement : Clause} {e : SessionError} :
    client.prepare statement = .error e ↔
      (∃ r, statement.validate = .error r ∧ e = .rejection r) ∨
        statement.validate = .ok () ∧
          ∃ f, statement.sql client.nestingLimit = .error f ∧ e = .sql f := by
  rw [prepare]
  cases statement.validate with
  | error r => simp [eq_comm]
  | ok =>
      cases statement.sql client.nestingLimit with
      | error f => simp [eq_comm]
      | ok sql => simp

/-- Prepares a statement and sends it. -/
def execute (client : Client κ) (statement : Clause) : StateM Session (Except SessionError Unit) :=
  match client.prepare statement with
  | .error e => pure (.error e)
  | .ok sql => do return (← Session.send sql).mapError .failure

variable [Catalog κ]

/-- Asks whether a container exists. -/
def probe (client : Client κ) : Recovery.Prober Session
  | .database id => do
    return (← Session.ask (.database id) (Catalog.databaseCall client.catalog id)).map fun _ => ()
  | .schema id => do
    return (← Session.ask (.schema id) (Catalog.schemaCall client.catalog id)).map fun _ => ()

/-- Prepares a drop and sends it, and recovers from an ambiguous failure by probing what holds the
target. -/
def drop {α : Type} [Drops α] (client : Client κ) (statement : α) :
    StateM Session (Except SessionError Unit) :=
  match client.prepare (Described.clause statement) with
  | .error e => pure (.error e)
  | .ok sql => do
    let answer ← Session.send sql
    return (← Recovery.drop client.probe (Drops.target statement) answer).mapError .failure

/-- Looks a database up, and says more of an ambiguous failure by probing what holds it. -/
def showDatabase (client : Client κ) (id : AccountScoped) :
    StateM Session (Except SessionError DatabaseInfo) := do
  let answer ← Session.ask (.database id) (Catalog.databaseCall client.catalog id)
  return (← Recovery.lookup client.probe id answer).mapError .failure

/-- Looks a schema up, and says more of an ambiguous failure by probing what holds it. -/
def showSchema (client : Client κ) (id : DatabaseScoped) :
    StateM Session (Except SessionError SchemaInfo) := do
  let answer ← Session.ask (.schema id) (Catalog.schemaCall client.catalog id)
  return (← Recovery.lookup client.probe id answer).mapError .failure

end Client

end WarehouseAdmin
