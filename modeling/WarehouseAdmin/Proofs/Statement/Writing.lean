import WarehouseAdmin.Proofs.Identifier.RoundTrip
import WarehouseAdmin.Proofs.Sql.Exclusion
import WarehouseAdmin.Proofs.Sql.Joining
import WarehouseAdmin.Proofs.Sql.Noninterference
import WarehouseAdmin.Proofs.Statement.Coherence

/-!
# What is written for a record

A statement is its pieces with spaces between them.  A field adds some pieces to those of its
clause: a keyword, a keyword and what is behind it, or none when it is not set.  The fields of an
inner record add the pieces of that record, so the pieces of a statement are a list, however its
clauses nest.

`Writes` says this of a run at any place that leaves enough room.  That no piece is empty is part of
it: the writer drops empty tokens, so only then do the pieces of a field stay apart from those of
the next one.

## Main statements

* `Described.writes_clause` — the pieces of a record are those of its fields, in order.
-/

namespace WarehouseAdmin

/-! ## Runs that write pieces -/

/-- A run writes pieces, wherever there is room for `d` levels of clauses. -/
structure Writes (d : Nat) (run : Nesting → Except SqlError String) (pieces : List String) :
    Prop where
  /-- No piece is empty. -/
  solid : ∀ piece ∈ pieces, piece ≠ ""
  /-- The pieces are written with spaces between them. -/
  run_eq : ∀ place : Nesting, place.depth + d ≤ place.limit →
    run place = .ok (" ".intercalate pieces)

namespace Writes

variable {d : Nat} {run : Nesting → Except SqlError String} {pieces : List String} {text : String}

theorem nothing (blank : ∀ place, run place = .ok "") : Writes d run [] :=
  ⟨by simp, fun place _ => blank place⟩

theorem one (solid : text ≠ "") (written : ∀ place, run place = .ok text) : Writes d run [text] :=
  ⟨by simpa using solid, fun place _ => by rw [written, String.intercalate_singleton]⟩

theorem two {text' : String} (solid : text ≠ "") (solid' : text' ≠ "")
    (written : ∀ place, run place = .ok (text ++ " " ++ text')) : Writes d run [text, text'] :=
  ⟨by simp [solid, solid'], fun place _ => by rw [written, String.intercalate_cons_cons]; simp⟩

theorem sql_eq {clause : Clause} {limit : Nat}
    (writes : Writes d (fun place => clause.sqlAt place) pieces)
    (room : d ≤ limit) : clause.sql limit = .ok (" ".intercalate pieces) :=
  writes.run_eq (.outermost limit) (by simpa [Nesting.depth, Nesting.outermost] using room)

end Writes

/-- Texts that are not quoted are written as they are. -/
theorem Value.elements_map_text (place : Nesting) (texts : List String) :
    Value.elements place .bare (texts.map .text) = .ok texts := by
  induction texts with
  | nil => rfl
  | cons text texts ih =>
      rw [List.map_cons, Value.elements, ih]
      rfl

/-! ## Fields -/

namespace Layout.Field

variable {α β : Type} {d : Nat} {name keyword : String} {record : α} {link : Link}

/-- A field writes pieces for a record. -/
def Leaves (d : Nat) (field : Layout.Field α) (record : α) (pieces : List String) : Prop :=
  Writes d (fun place => (field.entry record).token place) pieces

theorem leaves_fixed {text : String} (solid : text ≠ "") : (fixed text).Leaves d record [text] :=
  .one solid fun _ => rfl

theorem leaves_toggle {read : α → Option Bool} (solid : keyword ≠ "") :
    (toggle name keyword read).Leaves d record
      (if read record = some true then [keyword] else []) := by
  show Writes d (fun place => Entry.token place ⟨name, .keyword keyword, .ofFlag? (read record)⟩) _
  cases read record with
  | none => exact .nothing fun _ => rfl
  | some b =>
      cases b with
      | false => exact .nothing fun _ => rfl
      | true => exact .one solid fun _ => rfl

theorem leaves_identifier {read : α → Identifier} :
    (identifier name read).Leaves d record [(read record).text] :=
  .one (read record).text_ne_empty fun _ => rfl

theorem leaves_reference [Coe β Identifier] {read : α → Option β} (solid : keyword ≠ "") :
    (reference name keyword read).Leaves d record
      ((read record).toList.flatMap fun id : β => [keyword, (id : Identifier).text]) := by
  show Writes d (fun place => Entry.token place
    ⟨name, .reference keyword .space, .ofIdentifier? (read record)⟩) _
  cases read record with
  | none => exact .nothing fun _ => rfl
  | some id =>
      refine .two solid (Identifier.text_ne_empty _) fun place => ?_
      show Except.ok (Link.space.attach keyword (id : Identifier).text) = _
      rw [Link.attach, if_neg solid]

/-- A text between single quotes behind its name. -/
theorem leaves_quoted {read : α → Option String} (solid : keyword ≠ "") :
    Leaves d ⟨name, .named keyword .single link, fun record => .ofText? (read record)⟩ record
      ((read record).toList.map fun s => link.attach keyword (Text.enclose '\'' s)) := by
  show Writes d (fun place => Entry.token place
    ⟨name, .named keyword .single link, .ofText? (read record)⟩) _
  cases read record with
  | none => exact .nothing fun _ => rfl
  | some s => exact .one (Link.attach_ne_empty solid) fun _ => rfl

/-- A number behind its name. -/
theorem leaves_number {read : α → Option Nat} {quoting : Quoting} (solid : keyword ≠ "") :
    Leaves d ⟨name, .named keyword quoting link, fun record => .ofNat? (read record)⟩ record
      ((read record).toList.map fun n => link.attach keyword (toString n)) := by
  show Writes d (fun place => Entry.token place
    ⟨name, .named keyword quoting link, .ofNat? (read record)⟩) _
  cases read record with
  | none => exact .nothing fun _ => rfl
  | some n => exact .one (Link.attach_ne_empty solid) fun _ => rfl

/-- A text that stands alone. -/
theorem leaves_word {read : α → String} (solid : read record ≠ "") :
    Leaves d ⟨name, .keyword "", fun record => .text (read record)⟩ record [read record] := by
  refine .one solid fun place => ?_
  show Except.ok (joinTokens ["", read record]) = _
  rw [joinTokens, visible_cons_empty, visible_cons_of_ne solid]
  exact congrArg Except.ok String.intercalate_singleton

/-- The pieces of an inner record come behind their keyword. -/
theorem leaves_record? [Described β] {read : α → Option β} {pieces : β → List String}
    (solid : keyword ≠ "")
    (inner : ∀ b, Writes d (fun place => (Described.clause b).sqlAt place) (pieces b)) :
    Leaves d ⟨name, .keyword keyword, fun record => .ofRecord? (read record)⟩ record
      ((read record).toList.flatMap fun b => keyword :: pieces b) := by
  show Writes d
    (fun place => Entry.token place ⟨name, .keyword keyword, .ofRecord? (read record)⟩) _
  cases read record with
  | none => exact .nothing fun _ => rfl
  | some b =>
      have all : ∀ piece ∈ keyword :: pieces b, piece ≠ "" :=
        List.forall_mem_cons.mpr ⟨solid, (inner b).solid⟩
      rw [Option.toList_some, List.flatMap_singleton]
      refine ⟨all, fun place room => ?_⟩
      show Except.map _ ((Value.nested (Described.clause b)).sqlAt place .bare false) = _
      rw [Value.sqlAt, (inner b).run_eq place room]
      show Except.ok (joinTokens [keyword, " ".intercalate (pieces b)]) = _
      -- The keyword is a list of pieces of its own.
      have parts : [keyword, " ".intercalate (pieces b)] =
          [[keyword], pieces b].map (" ".intercalate ·) := by simp
      rw [parts, joinTokens_map_intercalate (by simpa using all)]
      simp

/-- Texts are a list with commas behind their keyword. -/
theorem leaves_texts {read : α → List String} (solid : keyword ≠ "")
    (items : ∀ item ∈ read record, item ≠ "") :
    Leaves d ⟨name, .keyword keyword, fun record => .ofTexts (read record)⟩ record
      (if read record = [] then [] else [keyword, ", ".intercalate (read record)]) := by
  show Writes d (fun place => Entry.token place ⟨name, .keyword keyword, .ofTexts (read record)⟩) _
  cases listed : read record with
  | nil => exact .nothing fun _ => rfl
  | cons first others =>
      rw [listed] at items
      have joined := intercalate_ne_empty ", " items (List.cons_ne_nil _ _)
      rw [if_neg (List.cons_ne_nil _ _)]
      refine .two solid joined fun place => ?_
      show Except.map _ ((Value.list ((first :: others).map .text)).sqlAt place .bare false) = _
      rw [Value.sqlAt, Value.elements_map_text]
      have all : visible (first :: others) = first :: others := by
        simpa [visible] using items
      show Except.ok (joinTokens [keyword, ", ".intercalate (visible (first :: others))]) = _
      rw [all, joinTokens, visible_cons_of_ne solid, visible_cons_of_ne joined]
      simp [visible]

end Layout.Field

/-! ## Records -/

/-- **The pieces of a record are those of its fields, in order.** -/
theorem Described.writes_clause {α : Type} [Described α] {d : Nat} (record : α)
    {piecess : List (List String)} (fields : List.Forall₂
      (fun field pieces => field.Leaves d record pieces) (layout : Layout α).fields piecess) :
    Writes (d + 1) (fun place => (clause record).sqlAt place) piecess.flatten := by
  have solid : ∀ pieces ∈ piecess, ∀ piece ∈ pieces, piece ≠ "" := by
    intro pieces mem
    obtain ⟨field, -, leaves⟩ := exists_rel_of_mem fields mem
    exact leaves.solid
  refine ⟨?_, fun place room => ?_⟩
  · intro piece mem
    obtain ⟨pieces, mem, there⟩ := List.mem_flatten.mp mem
    exact solid pieces mem piece there
  · obtain ⟨inside, entered, limit, -, path, -⟩ :=
      Nesting.exists_enter_eq (clause record).object (show place.depth < place.limit by omega)
    have deeper := Nesting.depth_of_path_eq path
    rw [Clause.sqlAt_eq_ok_iff]
    refine ⟨inside, piecess.map (" ".intercalate ·), entered, ?_, joinTokens_map_intercalate solid⟩
    rw [List.forall₂_map_right_iff]
    refine List.forall₂_map_left_iff.mpr (fields.imp fun field pieces leaves => ?_)
    exact leaves.run_eq inside (by omega)

end WarehouseAdmin
