import WarehouseAdmin.Catalog.Recovery
import WarehouseAdmin.Catalog.Registry
import WarehouseAdmin.Operation.Context

/-!
# Catalogs in operation

A drop or a lookup makes its call in a context and recovers from an ambiguous failure by probes in
the same context.  The catalog that is probed is a registry, or a scripted one that stands for the
account in a trial.

## Main definitions

* `ScriptedCatalog` — a registry with a script.
* `Journal` — a context and the record of what was asked in it.
* `ScriptedCatalog.call`, `ScriptedCatalog.probe` — what can be asked.
* `Journal.perform` — a call that asks for no container.
* `ScriptedCatalog.drop`, `ScriptedCatalog.lookup` — a call with the recovery from its failure.
* `Registry.drop`, `Registry.lookup` — the same with the containers asked for in a registry.
-/

namespace WarehouseAdmin

/-! ## Scripted catalogs

A scripted catalog answers from a registry, fails where the script says so, takes its time for every
answer, and what it is asked goes on record.
-/

/-- A registry with a script of failures and a delay for every answer. -/
structure ScriptedCatalog where
  registry : Registry
  /-- What the catalog answers when asked for a container; of several entries the last counts. -/
  failures : List (Container × Failure)
  /-- How many milliseconds an answer takes. -/
  delay : Nat

/-- A context, and the containers that a catalog was asked for in it, in order. -/
structure Journal where
  context : Context
  asked : List Container

/-- Runs a call that goes on record when it is started. -/
def Journal.run {α : Type} (container : Container) (call : Call α) :
    StateM Journal (Except Failure α) := fun journal =>
  let (answer, after) := journal.context.run call
  let asked := if journal.context.isCancelled then [] else [container]
  (answer, ⟨after, journal.asked ++ asked⟩)

namespace ScriptedCatalog

/-- The scripted failure for a container. -/
def failure? (catalog : ScriptedCatalog) (container : Container) : Option Failure :=
  (catalog.failures.reverse.find? (·.1 = container)).map (·.2)

/-- The call that asks for a container and would otherwise be answered from the registry. -/
def call {α : Type} (catalog : ScriptedCatalog) (container : Container)
    (registered : Except Failure α) : Call α where
  duration := catalog.delay
  answer := match catalog.failure? container with
    | some failure => .error failure
    | none => registered
  cancels := false

/-- Asks whether a container exists. -/
def probe (catalog : ScriptedCatalog) (container : Container) :
    StateM Journal (Except Failure Unit) :=
  Journal.run container (catalog.call container (catalog.registry.probe container))

end ScriptedCatalog

/-! ## Operations that recover -/

/-- Runs a call that leaves no record. -/
def Journal.perform {α : Type} (call : Call α) : StateM Journal (Except Failure α) := fun journal =>
  let (answer, after) := journal.context.run call
  (answer, { journal with context := after })

namespace ScriptedCatalog

/-- Drops an object by a call. -/
def drop (catalog : ScriptedCatalog) (id : Identifier) (call : Call Unit) :
    StateM Journal (Except Failure Unit) := do
  Recovery.drop catalog.probe id (← Journal.perform call)

/-- Looks an object up by a call. -/
def lookup {α : Type} (catalog : ScriptedCatalog) (id : Identifier) (call : Call α) :
    StateM Journal (Except Failure α) := do
  Recovery.lookup catalog.probe id (← Journal.perform call)

end ScriptedCatalog

namespace Registry

/-- Asks whether a container is registered.  A registry answers at once. -/
def ask (registry : Registry) : Recovery.Prober Context := fun container context =>
  context.run (.immediate (registry.probe container))

/-- Drops an object by a call. -/
def drop (registry : Registry) (id : Identifier) (call : Call Unit) :
    StateM Context (Except Failure Unit) := fun context =>
  let (answer, after) := context.run call
  Recovery.drop registry.ask id answer after

/-- Looks an object up by a call. -/
def lookup {α : Type} (registry : Registry) (id : Identifier) (call : Call α) :
    StateM Context (Except Failure α) := fun context =>
  let (answer, after) := context.run call
  Recovery.lookup registry.ask id answer after

end Registry

end WarehouseAdmin
