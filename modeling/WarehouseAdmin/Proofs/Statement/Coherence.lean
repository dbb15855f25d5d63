import WarehouseAdmin.Proofs.Check.Support
import WarehouseAdmin.Proofs.Sql.Descent
import WarehouseAdmin.Proofs.Statement.Identifiers
import WarehouseAdmin.Session.Client

/-!
# The layouts are coherent

A layout gives its rules and its directives by names and by shapes, and what the fields hold is read
off a record later on.  So a rule could be about a field that no clause has, or a directive could
meet a value that it does not write, and this could happen for some records only: those where an
option is set, or a list is not empty.

`Coherent` says of the records of one kind that it does not happen.  The lemmas in front of it go
with the ways in which a field is read off a record, and the instances go through the layouts with
them.  The parts of statements come first, because the layouts of statements rest on them.

## Main statements

* `Fragment.never_misused` — every statement and every part is checked and written, whatever it
  holds.
-/

namespace WarehouseAdmin

/-! ## Clauses in the values of fields -/

namespace Value

variable {α : Type}

@[simp] theorem clauses_text (s : String) : (text s).clauses = [] := rfl

@[simp] theorem clauses_ofFlag? (b : Option Bool) : (ofFlag? b).clauses = [] := by
  cases b <;> rfl

@[simp] theorem clauses_ofText? (s : Option String) : (ofText? s).clauses = [] := by
  cases s <;> rfl

@[simp] theorem clauses_ofNat? (n : Option Nat) : (ofNat? n).clauses = [] := by
  cases n <;> rfl

theorem allClauses_eq_flatMap (items : List Value) : allClauses items = items.flatMap clauses := by
  induction items with
  | nil => rfl
  | cons item items ih => rw [allClauses, ih, List.flatMap_cons]

@[simp] theorem clauses_ofTexts (items : List String) : (ofTexts items).clauses = [] := by
  rw [ofTexts, clauses, allClauses_eq_flatMap, List.flatMap_map]
  simp

@[simp] theorem clauses_ofRecord? [Described α] (record : Option α) :
    (ofRecord? record).clauses = record.toList.map Described.clause := by
  cases record <;> rfl

@[simp] theorem clauses_ofRecords [Described α] (records : List α) :
    (ofRecords records).clauses = records.map Described.clause := by
  rw [ofRecords, clauses, allClauses_eq_flatMap, List.flatMap_map]
  exact List.map_eq_flatMap.symm

end Value

/-! ## Fields that fit -/

namespace Directive

/-- Whether a directive writes whatever value there is. -/
def writesAny : Directive → Bool
  | .keyword _ | .named .. => true
  | _ => false

@[simp] theorem writesAny_keyword (text : String) : (keyword text).writesAny = true := by
  simp [writesAny]

@[simp] theorem writesAny_parameter (name : String) : (parameter name).writesAny = true := by
  simp [writesAny, parameter]

@[simp] theorem writesAny_quoted (directive : Directive) (quoting : Quoting) :
    (directive.quoted quoting).writesAny = directive.writesAny := by
  cases directive <;> rfl

@[simp] theorem writesAny_withoutEquals (directive : Directive) :
    directive.withoutEquals.writesAny = directive.writesAny := by
  cases directive <;> rfl

end Directive

namespace Layout.Field

variable {α : Type}

/-- The field of the clause of a record. -/
def entry (field : Layout.Field α) (record : α) : Entry :=
  ⟨field.name, field.directive, field.read record⟩

/-- For every record, the field fits its directive, and there is room within `d` levels for the
clauses that are written for it. -/
def FitsWithin (d : Nat) (field : Layout.Field α) : Prop :=
  ∀ record, (field.entry record).isMisfit = false ∧
    ∀ c ∈ (field.entry record).clauses, c.FitsWithin d

variable {d : Nat} (name keyword : String)

/-- Where any value is written, only the clauses in it matter. -/
@[simp] theorem fitsWithin_mk_iff {directive : Directive} {read : α → Value}
    (writes : directive.writesAny = true) :
      (⟨name, directive, read⟩ : Layout.Field α).FitsWithin d ↔
      ∀ record, ∀ c ∈ (read record).clauses, c.FitsWithin d := by
  cases directive with
  | keyword | named => exact forall_congr' fun _ => and_iff_right rfl
  | fixed | reference | sequence => cases writes

@[simp] theorem fitsWithin_fixed (text : String) : (fixed text : Layout.Field α).FitsWithin d :=
  fun _ => ⟨rfl, fun _ mem => absurd mem List.not_mem_nil⟩

@[simp] theorem fitsWithin_toggle (read : α → Option Bool) :
    (toggle name keyword read).FitsWithin d := by
  simp [toggle]

@[simp] theorem fitsWithin_identifier (read : α → Identifier) :
    (identifier name read).FitsWithin d :=
  fun _ => ⟨rfl, fun _ mem => absurd mem List.not_mem_nil⟩

theorem fitsWithin_identifier? {β : Type} [Coe β Identifier] (link : Link) (read : α → Option β) :
    (⟨name, .reference keyword link, fun record => .ofIdentifier? (read record)⟩ :
      Layout.Field α).FitsWithin d := by
  intro record
  refine ⟨?_, fun _ mem => absurd mem List.not_mem_nil⟩
  show Entry.isMisfit ⟨name, .reference keyword link, .ofIdentifier? (read record)⟩ = false
  cases read record <;> rfl

@[simp] theorem fitsWithin_reference {β : Type} [Coe β Identifier] (read : α → Option β) :
    (reference name keyword read).FitsWithin d :=
  fitsWithin_identifier? name keyword .space read

@[simp] theorem fitsWithin_literal (read : α → Option String) :
    (literal name keyword read).FitsWithin d := by
  simp [literal]

@[simp] theorem fitsWithin_operand (read : α → Option String) :
    (operand name keyword read).FitsWithin d := by
  simp [operand]

@[simp] theorem fitsWithin_expression (read : α → Option String) :
    (expression name keyword read).FitsWithin d := by
  simp [expression]

@[simp] theorem fitsWithin_raw (read : α → String) : (raw name read).FitsWithin d := by
  simp [raw]

@[simp] theorem fitsWithin_number (read : α → Option Nat) :
    (number name keyword read).FitsWithin d := by
  simp [number]

@[simp] theorem fitsWithin_flag (read : α → Option Bool) :
    (flag name keyword read).FitsWithin d := by
  simp [flag]

end Layout.Field

/-! ## Rules and fields of layouts -/

namespace Described

variable {α β : Type} [Described α] {name : String} {directive : Directive}

theorem hasField_of_field (record : α) (known : ((layout : Layout α).field? name).isSome) :
    (clause record).HasField name := by
  obtain ⟨field, found⟩ := Option.isSome_iff_exists.mp known
  exact ⟨_, first_of_field found record⟩

/-- A rule is about which fields are set. -/
theorem supports_presence {rule : Rule} (record : α) (outside : rule.looksInside = false)
    (known : ∀ name ∈ rule.fields, ((layout : Layout α).field? name).isSome) :
    (clause record).Supports rule :=
  .presence outside fun name mem => hasField_of_field record (known name mem)

/-- A rule is about the field of an identifier. -/
theorem supports_identifier {read : α → Identifier} {optional : Bool} (record : α)
    (found : layout.field? name = some (.identifier name read)) :
    (clause record).Supports (.validIdentifier name optional) := by
  apply Clause.Supports.validIdentifier (first_of_field found record)
  intro _ part mem
  exact ⟨read record, List.mem_singleton.mp mem⟩

/-- A rule is about the field of an identifier that may be unset. -/
theorem supports_identifier? [Coe β Identifier] {read : α → Option β} {optional : Bool} (record : α)
    (found : layout.field? name =
      some ⟨name, directive, fun record => .ofIdentifier? (read record)⟩) :
    (clause record).Supports (.validIdentifier name optional) := by
  apply Clause.Supports.validIdentifier (first_of_field found record)
  show Value.ofIdentifier? (read record) ≠ .absent →
    ∀ part ∈ (Value.ofIdentifier? (read record)).parts, ∃ id, part = .identifier id
  intro there part mem
  cases set : read record with
  | none => simp [set, Value.ofIdentifier?] at there
  | some b =>
      rw [set] at mem
      exact ⟨b, List.mem_singleton.mp mem⟩

/-- A record fits if the fields of its layout do. -/
theorem fitsWithin_clause {d : Nat} (record : α)
    (fields : ∀ field ∈ (layout : Layout α).fields, field.FitsWithin d) :
    (clause record).FitsWithin (d + 1) := by
  rw [Clause.fitsWithin_succ_iff]
  intro entry mem
  obtain ⟨field, listed, rfl⟩ := List.mem_map.mp mem
  exact fields field listed record

end Described

/-! ## Coherent layouts -/

/-- Records whose layout is coherent: its rules and its directives suit what the fields hold,
whatever that is, and clauses lie in each other up to `height` deep. -/
class Coherent (α : Type) [Described α] (height : outParam Nat) : Prop where
  supports : ∀ record : α, ∀ rule ∈ (Described.layout : Layout α).rules,
    (Described.clause record).Supports rule
  fits : ∀ record : α, (Described.clause record).FitsWithin height

namespace Coherent

variable {α β : Type} [Described β] {d : Nat} {name : String} {directive : Directive}
    {given : List Rule}

/-- A nested rule is about the field of inner records, if they support the rules that are given to
them. -/
theorem supports_nested [Described α] [Coherent β d] {field : Layout.Field α} (record : α)
    (found : Described.layout.field? name = some field)
    (held : field.read record = .absent ∨
      ∀ part ∈ (field.read record).parts, ∃ inner : β, part = .nested (Described.clause inner))
    (suits : ∀ inner : β, ∀ rule ∈ given, (Described.clause inner).Supports rule) :
    (Described.clause record).Supports (.nested name given) := by
  apply Clause.Supports.nested (Described.first_of_field found record)
  · show ¬ (field.read record).Unset → ∀ part ∈ (field.read record).parts, ∃ inner, part.Holds inner
    intro set part mem
    rcases held with absent | held
    · rw [absent] at set
      exact absurd .absent set
    · obtain ⟨inner, rfl⟩ := held part mem
      exact ⟨_, Or.inl rfl⟩
  · show ∀ part ∈ (field.read record).parts, ∀ inner, part.Holds inner →
      ∀ rule ∈ given ++ inner.rules, inner.Supports rule
    intro part mem c holds rule checked
    rcases held with absent | held
    · rw [absent] at mem
      obtain rfl : part = .absent := List.mem_singleton.mp mem
      simp [Value.Holds] at holds
    · obtain ⟨inner, rfl⟩ := held part mem
      obtain rfl : Described.clause inner = c := by simpa [Value.Holds] using holds
      rcases List.mem_append.mp checked with mem | mem
      · exact suits inner rule mem
      · exact supports inner rule mem

/-- A nested rule is about the field of an inner record that may be unset. -/
theorem supports_record? [Described α] [Coherent β d] {read : α → Option β} (record : α)
    (found : Described.layout.field? name =
      some ⟨name, directive, fun record => .ofRecord? (read record)⟩)
    (suits : ∀ inner : β, ∀ rule ∈ given, (Described.clause inner).Supports rule) :
    (Described.clause record).Supports (.nested name given) := by
  apply supports_nested record found _ suits
  show Value.ofRecord? (read record) = .absent ∨
    ∀ part ∈ (Value.ofRecord? (read record)).parts,
      ∃ inner : β, part = .nested (Described.clause inner)
  cases read record with
  | none => exact Or.inl rfl
  | some inner => exact Or.inr fun part mem => ⟨inner, List.mem_singleton.mp mem⟩

/-- A nested rule is about the field of inner records. -/
theorem supports_records [Described α] [Coherent β d] {read : α → List β} (record : α)
    (found : Described.layout.field? name =
      some ⟨name, directive, fun record => .ofRecords (read record)⟩)
    (suits : ∀ inner : β, ∀ rule ∈ given, (Described.clause inner).Supports rule) :
    (Described.clause record).Supports (.nested name given) := by
  apply supports_nested record found _ suits
  refine Or.inr ?_
  intro part mem
  obtain ⟨inner, -, rfl⟩ := List.mem_map.mp mem
  exact ⟨inner, rfl⟩

end Coherent

open Described Coherent

/-! ### Parts of statements -/

instance : Coherent TagValue 1 where
  supports tag := by
    simp only [layout, List.forall_mem_singleton]
    exact supports_identifier tag rfl
  fits tag := by
    apply fitsWithin_clause
    simp [layout]

@[simp] theorem Layout.Field.fitsWithin_tags {α : Type} (read : α → List TagValue) :
    (tags read).FitsWithin 1 := by
  simp [tags, fits]

instance : Coherent Column 1 where
  supports column := by
    simp only [layout, List.forall_mem_singleton]
    exact supports_identifier? column rfl
  fits column := by
    apply fitsWithin_clause
    simp [layout]

instance : Coherent Parameter 1 where
  supports parameter := by simp [layout]
  fits parameter := by
    apply fitsWithin_clause
    simp [layout]

instance : Coherent Scope 1 where
  supports scope := by
    simp only [layout, List.forall_mem_cons, List.not_mem_nil, false_implies, implies_true,
      and_true]
    exact ⟨supports_presence scope rfl (by decide), supports_identifier? scope rfl,
      supports_identifier? scope rfl⟩
  fits scope := by
    apply fitsWithin_clause
    simp [layout]

instance : Coherent DatabaseProperties 1 where
  supports properties := by simp [layout]
  fits properties := by
    apply fitsWithin_clause
    simp [layout, DatabaseProperties.fields]

instance : Coherent DatabaseClone 1 where
  supports clone := by
    simp only [layout, List.forall_mem_singleton]
    exact supports_identifier clone rfl
  fits clone := by
    apply fitsWithin_clause
    simp [layout]

/-! ### Statements -/

instance : Coherent CreateDatabase 2 where
  supports statement := by
    simp only [layout, List.forall_mem_cons, List.not_mem_nil, false_implies, implies_true,
      and_true]
    exact ⟨supports_identifier statement rfl, supports_presence statement rfl (by decide),
      supports_record? statement rfl (by simp), supports_records statement rfl (by simp)⟩
  fits statement := by
    apply fitsWithin_clause
    simp [layout, DatabaseProperties.fields, fits]

/-- Of the properties that are to be set it can be asked which ones there are. -/
theorem DatabaseProperties.supports_atLeastOneOf (properties : DatabaseProperties) :
    (Described.clause properties).Supports (.atLeastOneOf
      ["data_retention_time_in_days", "max_data_extension_time_in_days", "default_ddl_collation",
        "comment"]) :=
  supports_presence properties rfl (by decide)

instance : Coherent AlterDatabase 2 where
  supports statement := by
    simp only [layout, List.forall_mem_cons, List.not_mem_nil, false_implies, implies_true,
      and_true]
    exact ⟨supports_identifier statement rfl, supports_identifier? statement rfl,
      supports_identifier? statement rfl, supports_presence statement rfl (by decide),
      supports_record? statement rfl (by simpa using DatabaseProperties.supports_atLeastOneOf)⟩
  fits statement := by
    apply fitsWithin_clause
    simp [layout, fits]

instance : Coherent CreateSchema 2 where
  supports statement := by
    simp only [layout, List.forall_mem_cons, List.not_mem_nil, false_implies, implies_true,
      and_true]
    exact ⟨supports_identifier statement rfl, supports_identifier? statement rfl,
      supports_presence statement rfl (by decide), supports_records statement rfl (by simp)⟩
  fits statement := by
    apply fitsWithin_clause
    simp [layout]

instance : Coherent CreateTable 2 where
  supports statement := by
    simp only [layout, List.forall_mem_cons, List.not_mem_nil, false_implies, implies_true,
      and_true]
    exact ⟨supports_identifier statement rfl, supports_presence statement rfl (by decide),
      supports_presence statement rfl (by decide), supports_records statement rfl (by simp),
      supports_records statement rfl (by simp)⟩
  fits statement := by
    apply fitsWithin_clause
    simp [layout, fits]

instance : Coherent CreateWarehouse 2 where
  supports statement := by
    simp only [layout, List.forall_mem_cons, List.not_mem_nil, false_implies, implies_true,
      and_true]
    exact ⟨supports_identifier statement rfl, supports_identifier? statement rfl,
      supports_presence statement rfl (by decide)⟩
  fits statement := by
    apply fitsWithin_clause
    simp [layout, Directive.namedIdentifier, Layout.Field.fitsWithin_identifier?]

/-- An argument list is a text or a list of records. -/
theorem CreateFunction.fitsWithin_of_mem_argumentList (statement : CreateFunction) :
    ∀ c ∈ statement.argumentList.clauses, c.FitsWithin 1 := by
  intro c mem
  unfold CreateFunction.argumentList at mem
  split at mem
  · simp at mem
  · obtain ⟨parameter, -, rfl⟩ :
        ∃ parameter ∈ statement.parameters, Described.clause parameter = c := by simpa using mem
    exact fits parameter

instance : Coherent CreateFunction 2 where
  supports statement := by
    simp only [layout, List.forall_mem_cons, List.not_mem_nil, false_implies, implies_true,
      and_true]
    exact ⟨supports_identifier statement rfl, supports_presence statement rfl (by decide),
      supports_presence statement rfl (by decide), supports_presence statement rfl (by decide),
      supports_presence statement rfl (by decide)⟩
  fits statement := by
    apply fitsWithin_clause
    simpa [layout] using CreateFunction.fitsWithin_of_mem_argumentList

instance : Coherent ShowObjects 2 where
  supports statement := by
    simp only [layout, List.forall_mem_singleton]
    exact supports_record? statement rfl (by simp)
  fits statement := by
    apply fitsWithin_clause
    simp [layout, fits]

instance (kind : DataObject) : Coherent (DropData kind) 2 where
  supports statement := by
    simp only [layout, List.forall_mem_cons, List.not_mem_nil, false_implies, implies_true,
      and_true]
    exact ⟨supports_identifier statement rfl,
      supports_presence statement rfl (by cases kind <;> decide)⟩
  fits statement := by
    apply fitsWithin_clause
    simp [layout, Layout.Field.drop]

instance (kind : ComputeObject) : Coherent (DropCompute kind) 2 where
  supports statement := by
    simp only [layout, List.forall_mem_singleton]
    exact supports_identifier statement rfl
  fits statement := by
    apply fitsWithin_clause
    simp [layout, Layout.Field.drop]

/-! ## All statements and their parts -/

/-- A statement of any kind, or a part of one. -/
inductive Fragment where
  | whole (statement : Statement)
  | tagValue (part : TagValue)
  | column (part : Column)
  | parameter (part : Parameter)
  | scope (part : Scope)
  | databaseProperties (part : DatabaseProperties)
  | databaseClone (part : DatabaseClone)

namespace Fragment

def clause : Fragment → Clause
  | whole statement => statement.clause
  | tagValue part => Described.clause part
  | column part => Described.clause part
  | parameter part => Described.clause part
  | scope part => Described.clause part
  | databaseProperties part => Described.clause part
  | databaseClone part => Described.clause part

/-- What is declared of a statement or a part can be checked on every one of them. -/
theorem supports (fragment : Fragment) :
    ∀ rule ∈ fragment.clause.rules, fragment.clause.Supports rule := by
  cases fragment with
  | whole statement =>
      cases statement with
      | createDatabase statement | alterDatabase statement | createSchema statement
      | createTable statement | createWarehouse statement | createFunction statement
      | showObjects statement | dropData _ statement | dropCompute _ statement =>
          exact Coherent.supports statement
  | tagValue part | column part | parameter part | scope part | databaseProperties part
  | databaseClone part =>
      exact Coherent.supports part

/-- The clauses of a statement lie in each other two levels deep, and those of a part only one. -/
theorem fits (fragment : Fragment) : fragment.clause.FitsWithin 2 := by
  cases fragment with
  | whole statement =>
      cases statement with
      | createDatabase statement | alterDatabase statement | createSchema statement
      | createTable statement | createWarehouse statement | createFunction statement
      | showObjects statement | dropData _ statement | dropCompute _ statement =>
          exact Coherent.fits statement
  | tagValue part | column part | parameter part | scope part | databaseProperties part
  | databaseClone part =>
      exact (Coherent.fits part).mono (Nat.le_succ 1)

/-- **The layouts are free of misuses.**  Let a statement of any kind, or a part of one, be given,
whether it obeys its rules or not.

1. It is accepted, or the violations are listed.
2. It is written under every limit that leaves room for two levels.
3. So a client that leaves this room prepares it, unless there are violations.
4. Every client that is made from a configuration leaves this room. -/
theorem never_misused (fragment : Fragment) :
    (fragment.clause.validate = .ok () ∨
      ∃ vs, vs ≠ [] ∧ fragment.clause.validate = .error (.violations vs)) ∧
    (∃ text, ∀ limit, 2 ≤ limit → fragment.clause.sql limit = .ok text) ∧
    (∀ (κ : Type) (client : Client κ) (e : SessionError), 2 ≤ client.nestingLimit →
      client.prepare fragment.clause = .error e → ∃ vs, vs ≠ [] ∧ e = .rejection (.violations vs)) ∧
    ∀ (κ : Type) (config : Config) (catalog : κ) (client : Client κ),
      Client.ofConfig config catalog = .ok client → 2 ≤ client.nestingLimit := by
  have checked := Clause.validate_of_supports fragment.supports
  have written := fragment.fits.exists_sql_eq
  refine ⟨checked, written, ?_, ?_⟩
  · intro κ client e room failed
    obtain ⟨text, written⟩ := written
    rcases Client.prepare_eq_error_iff.mp failed with ⟨r, rejected, rfl⟩ | ⟨-, f, unwritten, -⟩
    · rcases checked with accepted | ⟨vs, some, listed⟩
      · rw [accepted] at rejected
        cases rejected
      · rw [listed] at rejected
        cases rejected
        exact ⟨vs, some, rfl⟩
    · rw [written _ room] at unwritten
      cases unwritten
  · intro κ config catalog client made
    unfold Client.ofConfig at made
    split at made
    · cases made
      show 2 ≤ Nesting.defaultLimit
      decide
    · cases made

end Fragment

end WarehouseAdmin
