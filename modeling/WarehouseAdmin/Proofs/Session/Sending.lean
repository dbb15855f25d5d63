import WarehouseAdmin.Proofs.Catalog.Recovery
import WarehouseAdmin.Proofs.Operation.Interruption
import WarehouseAdmin.Session.Client

/-!
# What a client sends

A statement comes to the account by one way only: it is checked, it is written, and it is sent, and
each of these steps can be the last.  Behind it a recovery may ask the catalog what has become of
the containers, and a lookup asks the catalog from the start.  Neither sends anything again.

So what a request does to a session has two parts: it sends its statement or not, and from there on
it only asks.  `Session.OnlyAsks` is the second part.  It holds of every question, it is transitive,
and a recovery is nothing but questions; this carries it over a request, whatever the catalog
answers.  With the first part it gives the statements of one request (`Client.sent_perform`), and by
induction those of all.

## Main statements

* `Client.sends_what_it_prepared` — the statements of any sequence of requests.
* `Client.probe_eq_inJournal` — a client of a scripted catalog probes as the catalog does.
-/

namespace WarehouseAdmin

/-! ## Steps of a session -/

namespace Session

variable {session after : Session}

/-- From one session to a later one nothing was sent.  Questions may have been asked. -/
structure OnlyAsks (session after : Session) : Prop where
  sent : after.sent = session.sent
  asked : session.journal.asked <+: after.journal.asked

namespace OnlyAsks

theorem refl (session : Session) : session.OnlyAsks session :=
  ⟨rfl, List.prefix_rfl⟩

theorem trans {s t u : Session} (first : s.OnlyAsks t) (second : t.OnlyAsks u) : s.OnlyAsks u :=
  ⟨second.sent.trans first.sent, first.asked.trans second.asked⟩

end OnlyAsks

theorem onlyAsks_ask {α : Type} (container : Container) (call : Session → Call α)
    (session : Session) :
    session.OnlyAsks (ask container call session).2 :=
  ⟨rfl, List.prefix_append _ _⟩

/-- In a context that has been called off nothing happens. -/
theorem send_of_isCancelled (off : session.journal.context.isCancelled = true) (sql : String) :
    send sql session = (.error Cause.cancelled, session) := by
  simp [send, Context.run, off]

theorem asked_send (sql : String) : (send sql session).2.journal.asked = session.journal.asked := by
  unfold send
  cases session.journal.context.isCancelled <;> rfl

/-- In any other context the statement is sent, once. -/
theorem sent_send (sql : String) : (send sql session).2.sent =
    session.sent ++ if session.journal.context.isCancelled then [] else [sql] := by
  unfold send
  cases session.journal.context.isCancelled with
  | false => rfl
  | true => simp

end Session

/-! ## Requests -/

/-- What a client can be asked to do. -/
inductive Request : Type 1 where
  | execute (statement : Clause)
  | drop {α : Type} [Drops α] (statement : α)
  | showDatabase (id : AccountScoped)
  | showSchema (id : DatabaseScoped)

namespace Request

/-- The statement of a request, if it is about one. -/
def statement? : Request → Option Clause
  | execute statement => some statement
  | @drop _ _ statement => some (Described.clause statement)
  | showDatabase _ | showSchema _ => none

/-- What a request gives when it is met. -/
abbrev Answer : Request → Type
  | execute .. | drop .. => Unit
  | showDatabase _ => DatabaseInfo
  | showSchema _ => SchemaInfo

end Request

namespace Client

variable {κ : Type}

/-- The statement that a client sends for a request in a context: what the statement of the request
is prepared as, if there is one that can be prepared, and if the context has not been called off. -/
def sends? (client : Client κ) (context : Context) (request : Request) : Option String :=
  if context.isCancelled then none
  else request.statement?.bind fun statement => (client.prepare statement).toOption

variable [Catalog κ]

/-- Does what is requested. -/
def perform (client : Client κ) :
    (request : Request) → StateM Session (Except SessionError request.Answer)
  | .execute statement => client.execute statement
  | @Request.drop _ _ statement => client.drop statement
  | .showDatabase id => client.showDatabase id
  | .showSchema id => client.showSchema id

/-- Does what is requested, one request after the other, each in a context of its own. -/
def serve (client : Client κ) : List (Context × Request) → Session → Session
  | [], session => session
  | (context, request) :: calls, session =>
    client.serve calls (client.perform request (session.changeContext fun _ => context)).2

variable {client : Client κ} {session after : Session} {request : Request} {statement : Clause}
  {sql : String}

/-! ### Questions -/

theorem onlyAsks_probe (container : Container) (session : Session) :
    session.OnlyAsks (client.probe container session).2 := by
  cases container with
  | database id =>
      exact Session.onlyAsks_ask (.database id) (Catalog.databaseCall client.catalog id) session
  | schema id =>
      exact Session.onlyAsks_ask (.schema id) (Catalog.schemaCall client.catalog id) session

theorem onlyAsks_of_probes {findings : List Recovery.Finding}
    (probes : Recovery.Probes client.probe session findings after) : session.OnlyAsks after :=
  probes.keeps Session.OnlyAsks.refl Session.OnlyAsks.trans onlyAsks_probe

/-- Behind the question that a lookup begins with there are only probes. -/
theorem onlyAsks_lookup {α : Type} (id : Identifier) (container : Container)
    (call : Session → Call α) :
    session.OnlyAsks
      ((do Recovery.lookup client.probe id (← Session.ask container call)) session).2 := by
  obtain ⟨findings, probes⟩ := Recovery.exists_probes_lookup client.probe id
    (Session.ask container call session).1 (Session.ask container call session).2
  exact (Session.onlyAsks_ask container call session).trans (onlyAsks_of_probes probes)

/-! ### One request -/

/-- A statement that cannot be prepared leaves no trace. -/
theorem perform_of_prepare_error {e : SessionError} (about : request.statement? = some statement)
    (failed : client.prepare statement = .error e) :
    client.perform request session = (.error e, session) := by
  cases request with
  | execute statement' =>
      obtain rfl : statement' = statement := Option.some.inj about
      simp only [perform, execute, failed]
      rfl
  | drop statement' =>
      obtain rfl : Described.clause statement' = statement := Option.some.inj about
      simp only [perform, drop, failed]
      rfl
  | showDatabase | showSchema => cases about

/-- When the statement of a drop has been sent there are only probes. -/
theorem exists_probes_drop {α : Type} [Drops α] {statement : α}
    (prepared : client.prepare (Described.clause statement) = .ok sql) (session : Session) :
    ∃ findings, Recovery.Probes client.probe (Session.send sql session).2 findings
      (client.drop statement session).2 := by
  obtain ⟨findings, probes⟩ := Recovery.exists_probes_drop client.probe (Drops.target statement)
    (Session.send sql session).1 (Session.send sql session).2
  refine ⟨findings, ?_⟩
  simp only [drop, prepared]
  exact probes

/-- A drop in a context that has been called off leaves no trace. -/
theorem drop_of_isCancelled {α : Type} [Drops α] {statement : α}
    (prepared : client.prepare (Described.clause statement) = .ok sql)
    (off : session.journal.context.isCancelled = true) :
    client.drop statement session = (.error (.failure Cause.cancelled), session) := by
  have undone :
      Recovery.drop client.probe (Drops.target statement) (.error Cause.cancelled) session =
        (.error Cause.cancelled, session) :=
    Recovery.drop_of_other rfl
  simp only [drop, prepared, bind, StateT.bind, Session.send_of_isCancelled off, undone]
  rfl

theorem onlyAsks_perform_of_none (about : request.statement? = none) :
    session.OnlyAsks (client.perform request session).2 := by
  cases request with
  | execute | drop => cases about
  | showDatabase id =>
      exact onlyAsks_lookup id (.database id) (Catalog.databaseCall client.catalog id)
  | showSchema id => exact onlyAsks_lookup id (.schema id) (Catalog.schemaCall client.catalog id)

theorem onlyAsks_perform_of_prepared (about : request.statement? = some statement)
    (prepared : client.prepare statement = .ok sql) :
    (Session.send sql session).2.OnlyAsks (client.perform request session).2 := by
  cases request with
  | execute statement' =>
      obtain rfl : statement' = statement := Option.some.inj about
      simp only [perform, execute, prepared]
      exact Session.OnlyAsks.refl _
  | drop statement' =>
      obtain rfl : Described.clause statement' = statement := Option.some.inj about
      obtain ⟨findings, probes⟩ := exists_probes_drop prepared session
      exact onlyAsks_of_probes probes
  | showDatabase | showSchema => cases about

/-- **One request sends one statement or none.** -/
theorem sent_perform (client : Client κ) (request : Request) (session : Session) :
    (client.perform request session).2.sent =
      session.sent ++ (client.sends? session.journal.context request).toList := by
  unfold sends?
  cases about : request.statement? with
  | none => simp [(onlyAsks_perform_of_none about).sent]
  | some statement =>
      cases prepared : client.prepare statement with
      | error e => simp [perform_of_prepare_error about prepared, prepared, Except.toOption]
      | ok sql =>
          rw [(onlyAsks_perform_of_prepared about prepared).sent, Session.sent_send]
          split <;> simp [prepared, Except.toOption]

/-! ### All requests -/

theorem sent_serve (client : Client κ) (calls : List (Context × Request)) (session : Session) :
    (client.serve calls session).sent =
      session.sent ++ calls.filterMap fun call => client.sends? call.1 call.2 := by
  induction calls generalizing session with
  | nil => simp [serve]
  | cons call calls ih =>
      obtain ⟨context, request⟩ := call
      rw [serve, ih, sent_perform]
      show session.sent ++ (client.sends? context request).toList ++ _ = _
      rw [List.append_assoc, List.filterMap_cons]
      cases client.sends? context request <;> rfl

/-- **A client sends what it has prepared, once and in order.**  Let a client work with any catalog,
and let a session have any past, any answers to come and any context.

1. Whatever is requested, one request after the other and each in a context of its own, the
   statements that are sent are those which the requests have prepared, one for a request, in the
   order of the requests.  A request whose context has been called off sends nothing, and a lookup
   sends nothing.
2. If a statement cannot be prepared, the request fails with this error and leaves no trace: nothing
   is sent, and nothing is asked.
3. What a statement is prepared as is its text, and it has been accepted.  Else it was rejected, or
   it was accepted and cannot be written, and this is the error.
4. A drop that sends its statement asks nothing before it, and does nothing but probe behind it.  A
   drop in a context that has been called off leaves no trace. -/
theorem sends_what_it_prepared (client : Client κ) (session : Session) :
    (∀ calls : List (Context × Request), (client.serve calls session).sent = session.sent ++
      calls.filterMap fun (context, request) =>
        if context.isCancelled then none
        else request.statement?.bind fun statement => (client.prepare statement).toOption) ∧
    (∀ (request : Request) statement e, request.statement? = some statement →
      client.prepare statement = .error e → client.perform request session = (.error e, session)) ∧
    (∀ statement,
      (∀ sql, client.prepare statement = .ok sql ↔
        statement.validate = .ok () ∧ statement.sql client.nestingLimit = .ok sql) ∧
      ∀ e, client.prepare statement = .error e ↔
        (∃ r, statement.validate = .error r ∧ e = .rejection r) ∨
          statement.validate = .ok () ∧ ∃ f, statement.sql client.nestingLimit = .error f ∧
            e = .sql f) ∧
    ∀ {α : Type} [Drops α] (statement : α) sql,
      client.prepare (Described.clause statement) = .ok sql →
      (session.journal.context.isCancelled = true → (client.drop statement session).2 = session) ∧
      (session.journal.context.isCancelled = false → ∃ sending findings,
        sending.sent = session.sent ++ [sql] ∧ sending.journal.asked = session.journal.asked ∧
        Recovery.Probes client.probe sending findings (client.drop statement session).2 ∧
        sending.OnlyAsks (client.drop statement session).2) := by
  refine ⟨fun calls => sent_serve client calls session, ?_, ?_, ?_⟩
  · intro request statement e about failed
    exact perform_of_prepare_error about failed
  · intro statement
    exact ⟨fun sql => prepare_eq_ok_iff, fun e => prepare_eq_error_iff⟩
  · intro α _ statement sql prepared
    constructor
    · intro off
      rw [drop_of_isCancelled prepared off]
    · intro on
      obtain ⟨findings, probes⟩ := exists_probes_drop prepared session
      refine ⟨(Session.send sql session).2, findings, ?_, Session.asked_send sql, probes, ?_⟩
      · rw [Session.sent_send, on]
        rfl
      · exact onlyAsks_of_probes probes

/-- A statement that breaks a rule is not sent, and neither is one in a context that has been called
off. -/
example :
    let table : DropData .table := .ofName ⟨"DB", "S", "T"⟩
    let client : Client := ⟨.ofAccount "account", Nesting.defaultLimit, ⟨.empty, [], 0⟩⟩
    let calls : List (Context × Request) :=
      [(.start none, .drop table.cascading.restricted), (Context.cancel (.start none), .drop table),
        (.start none, .drop table.cascading)]
    (client.serve calls (client.start [])).sent = ["DROP TABLE DB.S.T CASCADE"] := by
  decide +kernel

end Client

/-! ## Scripted catalogs -/

/-- What a call finds does not change what goes on record. -/
theorem Session.inJournal_run_forget {α : Type} (container : Container) (call : Call α)
    (session : Session) :
    inJournal (Journal.run container call.forget) session =
      ((inJournal (Journal.run container call) session).1.map fun _ => (),
        (inJournal (Journal.run container call) session).2) := by
  unfold inJournal Journal.run
  rw [Context.run_forget]

theorem ScriptedCatalog.call_forget {α : Type} (catalog : ScriptedCatalog) (container : Container)
    (registered : Except Failure α) :
    (catalog.call container registered).forget =
      catalog.call container (registered.map fun _ => ()) := by
  unfold ScriptedCatalog.call Call.forget
  cases catalog.failure? container <;> rfl

/-- **A client of a scripted catalog probes as the catalog does**, and puts it on the same record.
-/
theorem Client.probe_eq_inJournal (client : Client ScriptedCatalog) (container : Container) :
    client.probe container = Session.inJournal (client.catalog.probe container) := by
  funext session
  cases container with
  | database id =>
      unfold ScriptedCatalog.probe Registry.probe
      rw [← ScriptedCatalog.call_forget, Session.inJournal_run_forget]
      rfl
  | schema id =>
      unfold ScriptedCatalog.probe Registry.probe
      rw [← ScriptedCatalog.call_forget, Session.inJournal_run_forget]
      rfl

end WarehouseAdmin
