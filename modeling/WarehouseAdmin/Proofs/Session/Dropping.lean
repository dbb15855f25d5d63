import WarehouseAdmin.Proofs.Session.Sending
import WarehouseAdmin.Proofs.Statement.Dropping

/-!
# Where a drop looks

When a drop fails, its client asks the catalog for the containers of the target, one after the
other.  A question goes on record when it is asked, and in a context that has been called off it is
not asked.  But then its probe ends with this interruption, and an interruption ends the probing, so
nothing is left out between two questions that are asked: what goes on record are the first
containers, nearest first (`Client.asksFirstOf_of_probes`).

Together with what the statement says this ties the two ways that the name takes: the client looks
into the containers of the object that the account reads in the statement.

## Main statements

* `Drop.looks_around_what_it_names` — the statement of a drop, and what is probed when it fails.
-/

namespace WarehouseAdmin

open Recovery Identifier

/-- From one session to a later one some containers are asked for: the first of these, in order. -/
def Session.AsksFirstOf (session : Session) (containers : List Container) (after : Session) :
    Prop :=
  ∃ probed, probed <+: containers ∧ after.journal.asked = session.journal.asked ++ probed

namespace Session.AsksFirstOf

variable {session after : Session} {containers : List Container}

theorem of_asked_eq (same : after.journal.asked = session.journal.asked) :
    session.AsksFirstOf containers after :=
  ⟨[], List.nil_prefix, by simpa using same⟩

theorem mono {others : List Container} (h : session.AsksFirstOf containers after)
    (first : containers <+: others) : session.AsksFirstOf others after := by
  obtain ⟨probed, inOrder, asked⟩ := h
  exact ⟨probed, inOrder.trans first, asked⟩

end Session.AsksFirstOf

namespace Client

variable {κ : Type} [Catalog κ] {client : Client κ} {session after : Session}
  {findings : List Finding}

/-! ## Probes on record -/

/-- A probe goes on record, unless the context has been called off. -/
theorem asked_probe (client : Client κ) (container : Container) (session : Session) :
    (client.probe container session).2.journal.asked =
      session.journal.asked ++ if session.journal.context.isCancelled then [] else [container] := by
  cases container <;> rfl

/-- In a context that has been called off a probe is interrupted. -/
theorem probe_of_isCancelled (client : Client κ) (off : session.journal.context.isCancelled = true)
    (container : Container) :
    (client.probe container session).1 = .error Cause.cancelled := by
  have unstarted {α : Type} (call : Call α) :
      (session.journal.context.run call).1 = .error Cause.cancelled := by
    rw [Context.run, if_pos off]
  cases container with
  | database id =>
      show (session.journal.context.run _).1.map _ = _
      rw [unstarted]
      rfl
  | schema id =>
      show (session.journal.context.run _).1.map _ = _
      rw [unstarted]
      rfl

/-- **What goes on record are the first of the containers that are probed.** -/
theorem asksFirstOf_of_probes (probes : Probes client.probe session findings after)
    (goesOn : ∀ finding ∈ findings.dropLast, finding.failure?.any Failure.isInterruption = false) :
    session.AsksFirstOf (findings.map Finding.container) after := by
  induction probes with
  | done => exact .of_asked_eq rfl
  | @next session session' after finding findings first others ih =>
      have asked := asked_probe client finding.container session
      rw [first] at asked
      cases off : session.journal.context.isCancelled with
      | true =>
          -- The probe is interrupted, so it is the last one.
          have interrupted := probe_of_isCancelled client off finding.container
          rw [first] at interrupted
          cases others with
          | done => exact .of_asked_eq (by simpa [off] using asked)
          | next =>
              have uninterrupted := goesOn finding (by simp)
              rw [Finding.failure?_eq_some_iff.mpr interrupted] at uninterrupted
              cases uninterrupted
      | false =>
          obtain ⟨probed, inOrder, later⟩ := ih fun other mem => goesOn other <| by
            cases findings with
            | nil => simp at mem
            | cons => exact List.mem_cons_of_mem _ mem
          refine ⟨finding.container :: probed, ?_, ?_⟩
          · exact List.prefix_cons_inj _ |>.mpr inOrder
          · rw [later, asked, off, List.append_assoc]
            rfl

/-- A recovery asks for the first of what the object lies in. -/
theorem asksFirstOf_drop (client : Client κ) (id : Identifier) (outcome : Except Failure Unit)
    (session : Session) :
    session.AsksFirstOf id.ancestors (Recovery.drop client.probe id outcome session).2 := by
  cases outcome with
  | ok => exact .of_asked_eq rfl
  | error failure =>
      cases ambiguous : failure.is .notAuthorized with
      | false =>
          rw [drop_of_other ambiguous]
          exact .of_asked_eq rfl
      | true =>
          obtain ⟨findings, probes, probed, -⟩ :=
            exists_findings_drop client.probe id session ambiguous
          exact (asksFirstOf_of_probes probes probed.goesOn).mono probed.inOrder

end Client

/-! ## Drops -/

namespace Drop

variable {κ : Type} [Catalog κ]

/-- What a client does for a drop. -/
def perform (client : Client κ) : Drop → StateM Session (Except SessionError Unit)
  | data statement => client.drop statement
  | compute statement => client.drop statement

variable {client : Client κ} {drop : Drop} {sql : String} {session : Session}

/-- A drop that is prepared is sent, and its recovery follows. -/
theorem perform_eq (prepared : client.prepare drop.clause = .ok sql) (session : Session) :
    drop.perform client session =
      ((Recovery.drop client.probe drop.target (Session.send sql session).1
          (Session.send sql session).2).1.mapError .failure,
        (Recovery.drop client.probe drop.target (Session.send sql session).1
          (Session.send sql session).2).2) := by
  cases drop with
  | data statement | compute statement =>
      obtain prepared : client.prepare (Described.clause statement) = .ok sql := prepared
      simp only [perform, Client.drop, prepared]
      rfl

/-- Databases and warehouses lie directly in the account. -/
theorem level_eq_account_iff :
    drop.target.level = .account ↔ drop.keyword = "DATABASE" ∨ drop.keyword = "WAREHOUSE" := by
  cases drop with
  | @data kind statement =>
      cases kind <;>
        simp [target, Drops.target, DataObject.identifier, Identifier.level, keyword,
          DataObject.keyword]
  | @compute kind statement =>
      cases kind <;>
        simp [target, Drops.target, ComputeObject.identifier, Identifier.level, keyword,
          ComputeObject.keyword]

/-- **A drop looks around the object that its statement names.**  Let a client that works with any
catalog prepare a drop of any kind.

1. The statement says what is dropped, whether it may be missing, the name of the target, and at
   most one thing about dependent objects.
2. The name is read as the target, if the parentheses of each argument type are well nested and no
   comma stands outside of them.  Whatever it is read as lies in the same containers.
3. Whatever the account answers, whatever the catalog answers, and whether the context is called off
   or not: the containers that go on record are the first ones of those, nearest first.
4. A drop of a database or a warehouse that has failed is not reported as done. -/
theorem looks_around_what_it_names (client : Client κ) (drop : Drop) (sql : String)
    (prepared : client.prepare drop.clause = .ok sql) :
    sql = " ".intercalate (["DROP " ++ drop.keyword] ++
      (if drop.ifExists = some true then ["IF EXISTS"] else []) ++ [drop.target.text] ++
        (drop.dependents.filter (·.2)).map (·.1)) ∧
    drop.dependents.length ≤ 1 ∧
    (ofText drop.target.text = .ok drop.target ↔
      ∀ types, drop.target.arguments? = some types → ∀ t ∈ types,
        WellNested t.text.toList ∧ ¬ HasOuterComma t.text.toList) ∧
    (∀ id, ofText drop.target.text = .ok id → id.ancestors = drop.target.ancestors) ∧
    (∀ session : Session,
      session.AsksFirstOf drop.target.ancestors (drop.perform client session).2) ∧
    (drop.keyword = "DATABASE" ∨ drop.keyword = "WAREHOUSE" → ∀ session failure,
      (Session.send sql session).1 = .error failure →
        (drop.perform client session).1 = .error (.failure failure)) := by
  obtain ⟨-, alone, -, text⟩ := prepare_eq_ok_iff.mp prepared
  refine ⟨text, alone, ofText_text_iff _, fun id => ancestors_of_read, ?_, ?_⟩
  · intro session
    rw [perform_eq prepared]
    obtain ⟨probed, inOrder, asked⟩ := Client.asksFirstOf_drop client drop.target
      (Session.send sql session).1 (Session.send sql session).2
    exact ⟨probed, inOrder, by rw [asked, Session.asked_send]⟩
  · intro account session failure failed
    obtain ⟨findings, -, result⟩ := drop_reports_done_only_if_gone client.probe drop.target
      (Session.send sql session).1 (Session.send sql session).2
    rw [perform_eq prepared,
      result.unchanged failure failed (Or.inr (level_eq_account_iff.mpr account))]
    rfl

/-- The drop of a function whose argument has a comma in its type: its name is read back, and behind
whatever answer its schema is asked for before its database. -/
theorem looks_around_what_it_names_function :
    let name : Signature := SchemaScoped.withArguments ⟨"DB", "S", "F"⟩ ["number(38,0)"]
    let statement : DropCompute .function := .ofName name
    let drop : Drop := .compute statement.onlyIfExists
    let client : Client := ⟨.ofAccount "account", Nesting.defaultLimit, ⟨.empty, [], 0⟩⟩
    client.prepare drop.clause = .ok "DROP FUNCTION IF EXISTS DB.S.F(NUMBER(38,0))" ∧
      ofText drop.target.text = .ok drop.target ∧
      ∀ session : Session, session.AsksFirstOf
        [.schema ⟨"DB", "S"⟩, .database ⟨"DB"⟩] (drop.perform client session).2 := by
  intro name statement drop client
  have prepared :
      client.prepare drop.clause = .ok "DROP FUNCTION IF EXISTS DB.S.F(NUMBER(38,0))" := by
    decide +kernel
  obtain ⟨-, -, -, -, asks, -⟩ := looks_around_what_it_names client drop _ prepared
  exact ⟨prepared, by decide +kernel, asks⟩

end Drop

end WarehouseAdmin
