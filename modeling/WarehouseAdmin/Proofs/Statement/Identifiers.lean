import WarehouseAdmin.Proofs.Check.Guard
import WarehouseAdmin.Statement.Database
import WarehouseAdmin.Statement.Drop
import WarehouseAdmin.Statement.Function
import WarehouseAdmin.Statement.Schema
import WarehouseAdmin.Statement.Show
import WarehouseAdmin.Statement.Table
import WarehouseAdmin.Statement.Warehouse

/-!
# Accepted statements name objects

Each kind of statement has its own layout with its own rules, and identifiers stand in many places:
the object itself, what it is a clone of, the tags, the masking policies of columns.  `Guarded`
collects what has to be known of a kind: which identifiers its records hold, and that the layout
leaves none of them without a rule.  The instances go through the layouts one by one, and those of
statements rest on those of their parts.

## Main statements

* `Statement.accepted_names_objects` — an accepted statement holds no identifier without a name, and
  none is written in it.
-/

namespace WarehouseAdmin

/-! ## Identifiers in the values of fields -/

section Values

variable {α : Type}

@[simp] theorem Value.identifiers_ofFlag? (b : Option Bool) :
    (Value.ofFlag? b).identifiers = [] := by
  cases b <;> rfl

@[simp] theorem Value.identifiers_ofText? (s : Option String) :
    (Value.ofText? s).identifiers = [] := by
  cases s <;> rfl

@[simp] theorem Value.identifiers_ofNat? (n : Option Nat) : (Value.ofNat? n).identifiers = [] := by
  cases n <;> rfl

@[simp] theorem Value.identifiers_ofTexts (items : List String) :
    (Value.ofTexts items).identifiers = [] := by
  rw [Value.ofTexts, Value.identifiers, Value.identifiersAmong_eq_flatMap]
  simp [Value.identifiers]

@[simp] theorem Value.identifiers_ofIdentifier? [Coe α Identifier] (id : Option α) :
    (Value.ofIdentifier? id).identifiers = id.toList.map (↑) := by
  cases id <;> rfl

end Values

theorem Value.not_unset_of_nested_mem {value : Value} {inner : Clause}
    (mem : .nested inner ∈ value.parts) : ¬ value.Unset := by
  intro unset
  cases unset with
  | absent | list | embedded => simp [Value.parts] at mem

/-! ### Fields of layouts -/

namespace Layout.Field

variable {α : Type} (record : α) (name keyword : String)

@[simp] theorem identifiers_fixed (text : String) :
    ((fixed text : Layout.Field α).read record).identifiers = [] := rfl

@[simp] theorem identifiers_toggle (read : α → Option Bool) :
    ((toggle name keyword read).read record).identifiers = [] :=
  Value.identifiers_ofFlag? (read record)

@[simp] theorem identifiers_identifier (read : α → Identifier) :
    ((identifier name read).read record).identifiers = [read record] := rfl

@[simp] theorem identifiers_reference {β : Type} [Coe β Identifier] (read : α → Option β) :
    ((reference name keyword read).read record).identifiers = (read record).toList.map (↑) :=
  Value.identifiers_ofIdentifier? (read record)

@[simp] theorem identifiers_literal (read : α → Option String) :
    ((literal name keyword read).read record).identifiers = [] :=
  Value.identifiers_ofText? (read record)

@[simp] theorem identifiers_operand (read : α → Option String) :
    ((operand name keyword read).read record).identifiers = [] :=
  Value.identifiers_ofText? (read record)

@[simp] theorem identifiers_expression (read : α → Option String) :
    ((expression name keyword read).read record).identifiers = [] :=
  Value.identifiers_ofText? (read record)

@[simp] theorem identifiers_raw (read : α → String) :
    ((raw name read).read record).identifiers = [] := rfl

@[simp] theorem identifiers_number (read : α → Option Nat) :
    ((number name keyword read).read record).identifiers = [] :=
  Value.identifiers_ofNat? (read record)

@[simp] theorem identifiers_flag (read : α → Option Bool) :
    ((flag name keyword read).read record).identifiers = [] :=
  Value.identifiers_ofFlag? (read record)

end Layout.Field

/-! ## Guards in layouts -/

namespace Described

variable {α β : Type} [Described α] {field : Layout.Field α} {directive : Directive}
  {given : List Rule} {id : Identifier}

theorem identifiers_clause (record : α) :
    (clause record).identifiers = layout.fields.flatMap (·.read record |>.identifiers) := by
  rw [Clause.identifiers_eq_flatMap, clause, Layout.clause, List.flatMap_map]

/-- Every record has the first field of that name in the same place. -/
theorem first_of_field {name : String} (found : layout.field? name = some field) (record : α) :
    Clause.entry? (clause record) name = some ⟨field.name, field.directive, field.read record⟩ := by
  show ((layout.fields.map _).find? fun entry : Entry => entry.field == name) = _
  rw [List.find?_map]
  show (layout.field? name).map _ = _
  rw [found]
  rfl

/-- A rule is about the field of an identifier. -/
theorem guards_identifier {read : α → Identifier} (record : α) (name : String)
    (rule : .identifier name ∈ (layout : Layout α).rules)
    (found : layout.field? name = some (.identifier name read)) :
    (clause record).Guards (read record) :=
  .here rule (first_of_field found record) (Or.inl rfl)

/-- A rule is about the field of an identifier that may be unset. -/
theorem guards_identifier? [Coe β Identifier] {read : α → Option β} {b : β} (record : α)
    (name : String) (rule : .optionalIdentifier name ∈ (layout : Layout α).rules)
    (found : layout.field? name =
      some ⟨name, directive, fun record => .ofIdentifier? (read record)⟩)
    (mem : b ∈ read record) : (clause record).Guards b := by
  refine .here rule (first_of_field found record) (Or.inl ?_)
  show Value.ofIdentifier? (read record) = .identifier b
  rw [mem]
  rfl

/-- A nested rule is about the field of an inner record. -/
theorem guards_nested {inner : Clause} (record : α) (name : String)
    (rule : .nested name given ∈ (layout : Layout α).rules)
    (found : layout.field? name = some field) (mem : .nested inner ∈ (field.read record).parts)
    (guards : inner.Guards id) : (clause record).Guards id :=
  .inner rule (first_of_field found record) (Value.not_unset_of_nested_mem mem) mem
    (Or.inl rfl) guards

end Described

/-! ## Guarded records -/

/-- Records in whose clauses every identifier is guarded. -/
class Guarded (α : Type) [Described α] where
  /-- The identifiers in a record. -/
  identifiers : α → List Identifier
  /-- The clause of a record holds what the record holds. -/
  identifiers_clause : ∀ record : α, (Described.clause record).identifiers = identifiers record
  /-- No identifier is left without a rule. -/
  guards : ∀ record : α, ∀ id ∈ identifiers record, (Described.clause record).Guards id

namespace Guarded

variable {α β : Type} [Described α] [Described β] [Guarded β] {directive : Directive}
  {id : Identifier}

@[simp] theorem identifiers_ofRecord? (record : Option β) :
    (Value.ofRecord? record).identifiers = record.toList.flatMap identifiers := by
  cases record <;> simp [Value.ofRecord?, Value.identifiers, identifiers_clause]

@[simp] theorem identifiers_ofRecords (records : List β) :
    (Value.ofRecords records).identifiers = records.flatMap identifiers := by
  rw [Value.ofRecords, Value.identifiers, Value.identifiersAmong_eq_flatMap, List.flatMap_map]
  simp only [Value.identifiers, identifiers_clause]

theorem guards_record? {read : α → Option β} {inner : β} (record : α) (name : String)
    (rule : ∃ given, .nested name given ∈ (Described.layout : Layout α).rules)
    (found : Described.layout.field? name =
      some ⟨name, directive, fun record => .ofRecord? (read record)⟩)
    (some : inner ∈ read record) (mem : id ∈ identifiers inner) :
    (Described.clause record).Guards id := by
  obtain ⟨given, rule⟩ := rule
  refine Described.guards_nested record name rule found ?_ (guards inner id mem)
  show Value.nested (Described.clause inner) ∈ (Value.ofRecord? (read record)).parts
  rw [some]
  exact List.mem_singleton.mpr rfl

theorem guards_records {read : α → List β} {inner : β} (record : α) (name : String)
    (rule : ∃ given, .nested name given ∈ (Described.layout : Layout α).rules)
    (found : Described.layout.field? name =
      some ⟨name, directive, fun record => .ofRecords (read record)⟩)
    (listed : inner ∈ read record) (mem : id ∈ identifiers inner) :
    (Described.clause record).Guards id := by
  obtain ⟨given, rule⟩ := rule
  refine Described.guards_nested record name rule found ?_ (guards inner id mem)
  exact List.mem_map.mpr ⟨inner, listed, rfl⟩

end Guarded

/-! ### Parts of statements -/

open Guarded

instance : Guarded TagValue where
  identifiers tag := [.schema tag.name]
  identifiers_clause tag := by
    simp [Described.identifiers_clause, Described.layout, Value.identifiers]
  guards tag id mem := by
    obtain rfl := List.mem_singleton.mp mem
    exact Described.guards_identifier tag "name" (by simp [Described.layout]) rfl

@[simp] theorem Layout.Field.identifiers_tags {α : Type} (read : α → List TagValue) (record : α) :
    ((Layout.Field.tags read).read record).identifiers = (read record).flatMap identifiers :=
  identifiers_ofRecords (read record)

instance : Guarded Column where
  identifiers column := column.maskingPolicy.toList.map .schema
  identifiers_clause column := by
    simp [Described.identifiers_clause, Described.layout, Value.identifiers, Coe.coe]
  guards column id mem := by
    obtain ⟨policy, set, rfl⟩ : ∃ policy ∈ column.maskingPolicy, _ = id := by simpa using mem
    exact Described.guards_identifier? column "masking_policy" (by simp [Described.layout]) rfl set

instance : Guarded Parameter where
  identifiers _ := []
  identifiers_clause parameter := by simp [Described.identifiers_clause, Described.layout]
  guards parameter id mem := absurd mem List.not_mem_nil

@[simp] theorem Guarded.identifiers_parameter (parameter : Parameter) :
    identifiers parameter = [] := rfl

instance : Guarded Scope where
  identifiers scope := scope.database.toList.map .account ++ scope.schema.toList.map .database
  identifiers_clause scope := by simp [Described.identifiers_clause, Described.layout, Coe.coe]
  guards scope id mem := by
    obtain ⟨database, set, rfl⟩ | ⟨schema, set, rfl⟩ :
        (∃ database ∈ scope.database, _ = id) ∨ ∃ schema ∈ scope.schema, _ = id := by
      simpa using mem
    · exact Described.guards_identifier? scope "database" (by simp [Described.layout]) rfl set
    · exact Described.guards_identifier? scope "schema" (by simp [Described.layout]) rfl set

instance : Guarded DatabaseProperties where
  identifiers _ := []
  identifiers_clause properties := by
    simp [Described.identifiers_clause, Described.layout, DatabaseProperties.fields]
  guards properties id mem := absurd mem List.not_mem_nil

@[simp] theorem Guarded.identifiers_databaseProperties (properties : DatabaseProperties) :
    identifiers properties = [] := rfl

instance : Guarded DatabaseClone where
  identifiers clone := [.account clone.source]
  identifiers_clause clone := by simp [Described.identifiers_clause, Described.layout]
  guards clone id mem := by
    obtain rfl := List.mem_singleton.mp mem
    exact Described.guards_identifier clone "source" (by simp [Described.layout]) rfl

/-! ### Statements -/

instance : Guarded CreateDatabase where
  identifiers statement :=
    .account statement.name ::
      (statement.clone.toList.flatMap identifiers ++ statement.tags.flatMap identifiers)
  identifiers_clause statement := by
    simp [Described.identifiers_clause, Described.layout, DatabaseProperties.fields]
  guards statement id mem := by
    obtain rfl | ⟨clone, set, mem⟩ | ⟨tag, listed, mem⟩ : id = statement.name ∨
        (∃ clone ∈ statement.clone, id ∈ identifiers clone) ∨
          ∃ tag ∈ statement.tags, id ∈ identifiers tag := by simpa using mem
    · exact Described.guards_identifier statement "name" (by simp [Described.layout]) rfl
    · exact guards_record? statement "clone" ⟨[], by simp [Described.layout]⟩ rfl set mem
    · exact guards_records statement "tag" ⟨[], by simp [Described.layout]⟩ rfl listed mem

instance : Guarded AlterDatabase where
  identifiers statement :=
    .account statement.name ::
      (statement.newName.toList.map .account ++ statement.swapsWith.toList.map .account)
  identifiers_clause statement := by
    simp [Described.identifiers_clause, Described.layout, Coe.coe]
  guards statement id mem := by
    obtain rfl | ⟨newName, set, rfl⟩ | ⟨other, set, rfl⟩ : id = statement.name ∨
        (∃ newName ∈ statement.newName, _ = id) ∨ ∃ other ∈ statement.swapsWith, _ = id := by
      simpa using mem
    · exact Described.guards_identifier statement "name" (by simp [Described.layout]) rfl
    · exact Described.guards_identifier? statement "new_name" (by simp [Described.layout]) rfl set
    · exact Described.guards_identifier? statement "swap_with" (by simp [Described.layout]) rfl set

instance : Guarded CreateSchema where
  identifiers statement :=
    .database statement.name ::
      (statement.clone.toList.map .database ++ statement.tags.flatMap identifiers)
  identifiers_clause statement := by simp [Described.identifiers_clause, Described.layout, Coe.coe]
  guards statement id mem := by
    obtain rfl | ⟨clone, set, rfl⟩ | ⟨tag, listed, mem⟩ : id = statement.name ∨
        (∃ clone ∈ statement.clone, _ = id) ∨ ∃ tag ∈ statement.tags, id ∈ identifiers tag := by
      simpa using mem
    · exact Described.guards_identifier statement "name" (by simp [Described.layout]) rfl
    · exact Described.guards_identifier? statement "clone" (by simp [Described.layout]) rfl set
    · exact guards_records statement "tag" ⟨[], by simp [Described.layout]⟩ rfl listed mem

instance : Guarded CreateTable where
  identifiers statement :=
    .schema statement.name ::
      (statement.columns.flatMap identifiers ++ statement.tags.flatMap identifiers)
  identifiers_clause statement := by simp [Described.identifiers_clause, Described.layout]
  guards statement id mem := by
    obtain rfl | ⟨column, listed, mem⟩ | ⟨tag, listed, mem⟩ : id = statement.name ∨
        (∃ column ∈ statement.columns, id ∈ identifiers column) ∨
          ∃ tag ∈ statement.tags, id ∈ identifiers tag := by simpa using mem
    · exact Described.guards_identifier statement "name" (by simp [Described.layout]) rfl
    · exact guards_records statement "columns" ⟨[], by simp [Described.layout]⟩ rfl listed mem
    · exact guards_records statement "tag" ⟨[], by simp [Described.layout]⟩ rfl listed mem

instance : Guarded CreateWarehouse where
  identifiers statement := .account statement.name :: statement.resourceMonitor.toList.map .account
  identifiers_clause statement := by simp [Described.identifiers_clause, Described.layout, Coe.coe]
  guards statement id mem := by
    obtain rfl | ⟨monitor, set, rfl⟩ :
        id = statement.name ∨ ∃ monitor ∈ statement.resourceMonitor, _ = id := by simpa using mem
    · exact Described.guards_identifier statement "name" (by simp [Described.layout]) rfl
    · exact Described.guards_identifier? statement "resource_monitor"
        (by simp [Described.layout]) rfl set

@[simp] theorem CreateFunction.identifiers_argumentList (statement : CreateFunction) :
    statement.argumentList.identifiers = [] := by
  rw [CreateFunction.argumentList]
  split
  · rfl
  · simp

instance : Guarded CreateFunction where
  identifiers statement := [.schema statement.name]
  identifiers_clause statement := by
    simp [Described.identifiers_clause, Described.layout, Value.identifiers]
  guards statement id mem := by
    obtain rfl := List.mem_singleton.mp mem
    exact Described.guards_identifier statement "name" (by simp [Described.layout]) rfl

instance : Guarded ShowObjects where
  identifiers statement := statement.scope.toList.flatMap identifiers
  identifiers_clause statement := by
    simp [Described.identifiers_clause, Described.layout, Value.identifiers]
  guards statement id mem := by
    obtain ⟨scope, set, mem⟩ : ∃ scope ∈ statement.scope, id ∈ identifiers scope := by
      simpa using mem
    exact guards_record? statement "in_scope" ⟨[], by simp [Described.layout]⟩ rfl set mem

instance (kind : DataObject) : Guarded (DropData kind) where
  identifiers statement := [kind.identifier statement.name]
  identifiers_clause statement := by
    simp [Described.identifiers_clause, Described.layout, Layout.Field.drop]
  guards statement id mem := by
    obtain rfl := List.mem_singleton.mp mem
    exact Described.guards_identifier statement "name" (by simp [Described.layout]) rfl

instance (kind : ComputeObject) : Guarded (DropCompute kind) where
  identifiers statement := [kind.identifier statement.name]
  identifiers_clause statement := by
    simp [Described.identifiers_clause, Described.layout, Layout.Field.drop]
  guards statement id mem := by
    obtain rfl := List.mem_singleton.mp mem
    exact Described.guards_identifier statement "name" (by simp [Described.layout]) rfl

/-! ## All statements -/

/-- A statement of any kind. -/
inductive Statement where
  | createDatabase (statement : CreateDatabase)
  | alterDatabase (statement : AlterDatabase)
  | createSchema (statement : CreateSchema)
  | createTable (statement : CreateTable)
  | createWarehouse (statement : CreateWarehouse)
  | createFunction (statement : CreateFunction)
  | showObjects (statement : ShowObjects)
  | dropData (kind : DataObject) (statement : DropData kind)
  | dropCompute (kind : ComputeObject) (statement : DropCompute kind)

namespace Statement

def clause : Statement → Clause
  | createDatabase statement => Described.clause statement
  | alterDatabase statement => Described.clause statement
  | createSchema statement => Described.clause statement
  | createTable statement => Described.clause statement
  | createWarehouse statement => Described.clause statement
  | createFunction statement => Described.clause statement
  | showObjects statement => Described.clause statement
  | dropData _ statement => Described.clause statement
  | dropCompute _ statement => Described.clause statement

/-- Every identifier that a statement holds, also in its parts. -/
def identifiers : Statement → List Identifier
  | createDatabase statement => Guarded.identifiers statement
  | alterDatabase statement => Guarded.identifiers statement
  | createSchema statement => Guarded.identifiers statement
  | createTable statement => Guarded.identifiers statement
  | createWarehouse statement => Guarded.identifiers statement
  | createFunction statement => Guarded.identifiers statement
  | showObjects statement => Guarded.identifiers statement
  | dropData _ statement => Guarded.identifiers statement
  | dropCompute _ statement => Guarded.identifiers statement

theorem identifiers_clause (statement : Statement) :
    statement.clause.identifiers = statement.identifiers := by
  cases statement <;> exact Guarded.identifiers_clause _

/-- The layouts leave no identifier without a rule. -/
theorem guards (statement : Statement) :
    ∀ id ∈ statement.identifiers, statement.clause.Guards id := by
  cases statement <;> exact Guarded.guards _

/-- **An accepted statement names objects.**  No identifier in it ends with an empty part, at any
depth.  And none is written: however such identifiers are changed, the text stays the same. -/
theorem accepted_names_objects {statement : Statement}
    (accepted : statement.clause.validate = .ok ()) :
    (∀ id ∈ statement.identifiers, id.name ≠ "") ∧
    ∀ (f : Identifier → Identifier) (limit : Nat), (∀ id, id.name ≠ "" → f id = id) →
      (statement.clause.mapIdentifiers f).sql limit = statement.clause.sql limit := by
  have named : ∀ id ∈ statement.identifiers, id.name ≠ "" := by
    intro id mem
    exact (statement.guards id mem).name_ne_empty accepted
  refine ⟨named, ?_⟩
  intro f limit fixed
  apply Clause.sql_mapIdentifiers
  rw [identifiers_clause]
  intro id mem
  exact fixed id (named id mem)

/-- A table with a tag and with a masking policy on one of its columns. -/
theorem accepted_names_objects_table :
    let column := (Column.ofName "ID" "INT").withMaskingPolicy ⟨"DB", "S", "HIDE"⟩
    let table := CreateTable.ofColumns ⟨"DB", "S", "T"⟩ [Column.ofName "DAY" "DATE", column]
    let statement := createTable { table with tags := [⟨⟨"DB", "S", "OWNER"⟩, "ops"⟩] }
    statement.clause.validate = .ok () ∧ (∀ id ∈ statement.identifiers, id.name ≠ "") ∧
      ∀ (f : Identifier → Identifier) (limit : Nat), (∀ id, id.name ≠ "" → f id = id) →
        (statement.clause.mapIdentifiers f).sql limit = statement.clause.sql limit := by
  intro column table statement
  have accepted : statement.clause.validate = .ok () := by rfl
  exact ⟨accepted, accepted_names_objects accepted⟩

/-- The name that stands for no name is found in a column, too. -/
example :
    let column := (Column.ofName "ID" "INT").withMaskingPolicy .unset
    (createTable (CreateTable.ofColumns ⟨"DB", "S", "T"⟩ [column])).clause.validate =
      .error (.violations
        [⟨.invalidIdentifier, "CreateTableOptions.columns[0]", ["masking_policy"]⟩]) := by
  rfl

end Statement

end WarehouseAdmin
