import WarehouseAdmin.Proofs.Identifier.Canonical
import WarehouseAdmin.Proofs.Statement.Acceptance
import WarehouseAdmin.Proofs.Statement.Writing
import WarehouseAdmin.Session.Client

/-!
# What a drop names

The name of the object takes two ways through a drop.  It is written in the statement, where the
account reads it, and it is the target, whose containers are probed when the drop fails.  So the two
have to agree on where the object lies.  They do, whatever stands in the name: the text of an
identifier is taken apart in one way only, and its parts alone say what the object lies in
(`Identifier.ancestors_of_read`).

`Drop` is a drop of an object of any of the five kinds.

## Main statements

* `Drop.prepare_eq_ok_iff` — when a drop is prepared, and as what.
* `Identifier.ancestors_of_read` — the text of an identifier is read as one in the same containers.
-/

namespace WarehouseAdmin

open Described Layout.Field

/-! ## Where an object lies -/

namespace Identifier

variable {a b : Identifier}

theorem ancestors_eq_of_parts (parts : a.parts = b.parts) : a.ancestors = b.ancestors := by
  cases a <;> cases b <;> simp_all [Identifier.parts, ancestors, DatabaseScoped.databaseId,
    SchemaScoped.databaseId, SchemaScoped.schemaId, Signature.base]

/-- Whatever the text of an identifier is read as, it has the same parts. -/
theorem parts_of_read (read : ofText a.text = .ok b) : b.parts = a.parts := by
  obtain ⟨w, wf, text, denotes⟩ := ofText_eq_ok_iff_denotes.mp read
  have same : w = writtenName a := by
    apply WrittenName.eq_of_text_eq wf.parts (wellFormed_of_mem_writtenName a) wf.parts_ne_nil
    · simpa [writtenName] using a.parts_ne_nil
    · rw [text, trim_text, text_writtenName]
  rw [denotes.parts, same, writtenName, List.map_map]
  exact (List.map_congr_left fun part _ => Part.value_written part).trans (List.map_id _)

/-- **The text of an identifier is read as one in the same containers**, also where it is not read
as the identifier itself. -/
theorem ancestors_of_read (read : ofText a.text = .ok b) : b.ancestors = a.ancestors :=
  ancestors_eq_of_parts (parts_of_read read)

end Identifier

/-! ## Drops -/

/-- A drop of an object of any kind. -/
inductive Drop where
  | data {kind : DataObject} (statement : DropData kind)
  | compute {kind : ComputeObject} (statement : DropCompute kind)

namespace Drop

def clause : Drop → Clause
  | data statement => Described.clause statement
  | compute statement => Described.clause statement

/-- The object that is dropped. -/
def target : Drop → Identifier
  | data statement => Drops.target statement
  | compute statement => Drops.target statement

def keyword : Drop → String
  | @data kind _ => kind.keyword
  | @compute kind _ => kind.keyword

def ifExists : Drop → Option Bool
  | data statement => statement.ifExists
  | compute statement => statement.ifExists

/-- What is set about dependent objects: the keywords, and which of them are on. -/
def dependents : Drop → List (String × Bool)
  | data statement =>
    statement.cascade.toList.map ("CASCADE", ·) ++ statement.restrict.toList.map ("RESTRICT", ·)
  | compute _ => []

/-- The text of a drop, as pieces between spaces. -/
def pieces (drop : Drop) : List String :=
  ["DROP " ++ drop.keyword] ++ (if drop.ifExists = some true then ["IF EXISTS"] else []) ++
    [drop.target.text] ++ (drop.dependents.filter (·.2)).map (·.1)

/-- A flag that is on is written as its keyword. -/
theorem map_filter_flag (flag : Option Bool) (keyword : String) :
    ((flag.toList.map (keyword, ·)).filter (·.2)).map (·.1) =
      if flag = some true then [keyword] else [] := by
  cases flag with
  | none => rfl
  | some on => cases on <;> rfl

theorem writes_pieces (drop : Drop) :
    Writes 1 (fun place => drop.clause.sqlAt place) drop.pieces := by
  cases drop with
  | data statement =>
      have pieces := writes_clause (d := 0) statement <|
        .cons (leaves_fixed (by simp)) <| .cons (leaves_toggle (by decide)) <|
        .cons leaves_identifier <| .cons (leaves_toggle (by decide)) <|
        .cons (leaves_toggle (by decide)) .nil
      show Writes 1 (fun place => (Described.clause statement).sqlAt place) _
      convert pieces using 1
      simp only [Drop.pieces, dependents, List.filter_append, List.map_append, map_filter_flag]
      simp [keyword, ifExists, target, Drops.target]
      rfl
  | compute statement =>
      have pieces := writes_clause (d := 0) statement <|
        .cons (leaves_fixed (by simp)) <| .cons (leaves_toggle (by decide)) <|
        .cons leaves_identifier .nil
      show Writes 1 (fun place => (Described.clause statement).sqlAt place) _
      convert pieces using 1
      simp [Drop.pieces, dependents, keyword, ifExists, target, Drops.target]
      rfl

theorem accepted_iff (drop : Drop) :
    drop.clause.validate = .ok () ↔ drop.target.isValid ∧ drop.dependents.length ≤ 1 := by
  cases drop with
  | @data kind statement =>
      show (Described.clause statement).validate = .ok () ↔ _
      rw [Described.accepted_iff]
      simp only [layout, List.forall_mem_cons, List.not_mem_nil, false_implies, implies_true,
        and_true]
      let flags : List (Layout.Field (DropData kind)) :=
        [toggle "cascade" "CASCADE" (·.cascade), toggle "restrict" "RESTRICT" (·.restrict)]
      have found : ["cascade", "restrict"].map (layout : Layout (DropData kind)).field? =
          flags.map some := by
        cases kind <;> rfl
      have counted : setAmong flags statement = (data statement).dependents.length := by
        simp [flags, toggle, dependents, Option.length_toList]
      rw [passes_identifier_iff statement rfl, passes_conflicting_iff flags found, counted]
      rfl
  | compute statement =>
      show (Described.clause statement).validate = .ok () ↔ _
      rw [Described.accepted_iff]
      simp only [layout, List.forall_mem_cons, List.not_mem_nil, false_implies, implies_true,
        and_true]
      rw [passes_identifier_iff statement rfl]
      simp [dependents]
      rfl

/-- **When a drop is prepared, and as what.** -/
theorem prepare_eq_ok_iff {κ : Type} {client : Client κ} {drop : Drop} {sql : String} :
    client.prepare drop.clause = .ok sql ↔
      drop.target.isValid ∧ drop.dependents.length ≤ 1 ∧ 1 ≤ client.nestingLimit ∧
        sql = " ".intercalate drop.pieces := by
  rw [Client.prepare_eq_ok_iff, accepted_iff, and_assoc, and_congr_right_iff]
  refine fun _ => and_congr_right fun _ => ?_
  constructor
  · intro written
    have room : 1 ≤ client.nestingLimit := by
      by_contra none
      obtain ⟨inside, -, entered, -⟩ := Clause.sqlAt_eq_ok_iff.mp written
      rw [Nesting.enter_of_depth_eq (by simp [Nesting.outermost, Nesting.depth]; omega)] at entered
      cases entered
    exact ⟨room, Except.ok.inj (written.symm.trans (drop.writes_pieces.sql_eq room))⟩
  · rintro ⟨room, rfl⟩
    exact drop.writes_pieces.sql_eq room

end Drop

end WarehouseAdmin
