import WarehouseAdmin.Catalog.Registry
import WarehouseAdmin.Proofs.Outcome
import Mathlib.Data.List.Induction

/-!
# A registry keeps the hierarchy

A registry is seen through its lookups only.  So each operation is described by what is found after
it under every name, which says at once what it changes and that it changes nothing else.

Which names are known after a run can be read off the changes alone: a name stands when a change
added it and no later one removed it (`Stands`).  A change that adds a schema adds its database too,
and one that removes a database removes its schemas too.  So the database of a schema that stands
always stands, in whatever order the changes were made.

## Main statements

* `hasDatabase_after_iff`, `hasSchema_after_iff` — what is known after a run.
* `after_is_well_kept` — every run leads to a registry that is well kept.
-/

namespace WarehouseAdmin

namespace Registry

variable {registry : Registry}

/-! ## What is found after an operation -/

section Keyed

variable {α κ : Type} [DecidableEq κ]

/-- Of the entries whose keys are kept, those under a key are all there or all gone. -/
theorem find?_filter_key (key : α → κ) (xs : List α) (keep : κ → Bool) (k : κ) :
    (xs.filter fun x => keep (key x)).find? (key · = k) =
      if keep k then xs.find? (key · = k) else none := by
  rw [List.find?_filter]
  cases kept : keep k with
  | true =>
      refine congrArg (xs.find? ·) (funext fun x => ?_)
      by_cases same : key x = k <;> simp [same, kept]
  | false =>
      simp only [Bool.false_eq_true, if_false, List.find?_eq_none, decide_eq_true_eq, not_and]
      rintro x - keeps rfl
      simp [kept] at keeps

/-- An entry takes the place of what was there under its key. -/
theorem find?_cons_filter_key (key : α → κ) (xs : List α) (x : α) (k : κ) :
    (x :: xs.filter (key · ≠ key x)).find? (key · = k) =
      if k = key x then some x else xs.find? (key · = k) := by
  by_cases same : k = key x
  · simp [same]
  · have others := find?_filter_key key xs (fun k => decide (k ≠ key x)) k
    rw [List.find?_cons_of_neg (by simpa using Ne.symm same), others]
    simp [same]

end Keyed

theorem database?_addDatabase (info : DatabaseInfo) (id : AccountScoped) :
    (registry.addDatabase info).database? id =
      if id = info.name then some info else registry.database? id :=
  find?_cons_filter_key DatabaseInfo.name registry.databases info id

theorem schema?_addDatabase (info : DatabaseInfo) (id : DatabaseScoped) :
    (registry.addDatabase info).schema? id = registry.schema? id :=
  rfl

/-- The database of a new schema is registered by its name only, and only if it was not known. -/
theorem database?_addSchema (info : SchemaInfo) (id : AccountScoped) :
    (registry.addSchema info).database? id =
      if id = info.database then some ((registry.database? id).getD (.ofName id))
      else registry.database? id := by
  by_cases known : registry.hasDatabase info.database = true
  · have same : (registry.addSchema info).database? id = registry.database? id := by
      simp only [addSchema, if_pos known]
      rfl
    rw [same]
    split
    next equal =>
      obtain ⟨found, look⟩ := Option.isSome_iff_exists.mp known
      rw [equal, look]
      rfl
    next => rfl
  · have added : (registry.addSchema info).database? id =
        (registry.addDatabase (.ofName info.database)).database? id := by
      simp only [addSchema, if_neg known]
      rfl
    rw [added, database?_addDatabase, DatabaseInfo.ofName]
    split
    next equal =>
      rw [hasDatabase, Bool.not_eq_true, Option.isSome_eq_false_iff,
        Option.isNone_iff_eq_none] at known
      rw [equal, known]
      rfl
    next => rfl

theorem schema?_addSchema (info : SchemaInfo) (id : DatabaseScoped) :
    (registry.addSchema info).schema? id =
      if id = info.name then some info else registry.schema? id := by
  have unchanged : (if registry.hasDatabase info.database = true then registry
      else registry.addDatabase (.ofName info.database)).schemas = registry.schemas := by
    split <;> rfl
  simp only [schema?, addSchema, unchanged]
  exact find?_cons_filter_key SchemaInfo.name registry.schemas info id

theorem database?_removeDatabase (removed id : AccountScoped) :
    (registry.removeDatabase removed).database? id =
      if id = removed then none else registry.database? id := by
  have kept := find?_filter_key DatabaseInfo.name registry.databases (fun name => name ≠ removed) id
  refine kept.trans ?_
  simp [database?]

theorem schema?_removeDatabase (removed : AccountScoped) (id : DatabaseScoped) :
    (registry.removeDatabase removed).schema? id =
      if id.databaseId = removed then none else registry.schema? id := by
  have kept := find?_filter_key SchemaInfo.name registry.schemas
    (fun name => name.databaseId ≠ removed) id
  refine kept.trans ?_
  simp [schema?]

theorem database?_removeSchema (removed : DatabaseScoped) (id : AccountScoped) :
    (registry.removeSchema removed).database? id = registry.database? id :=
  rfl

theorem schema?_removeSchema (removed id : DatabaseScoped) :
    (registry.removeSchema removed).schema? id =
      if id = removed then none else registry.schema? id := by
  have kept := find?_filter_key SchemaInfo.name registry.schemas (fun name => name ≠ removed) id
  refine kept.trans ?_
  simp [schema?]

/-! ## Changes -/

/-- A change of a registry. -/
inductive Change where
  /-- A database is registered of which only the name is known. -/
  | nameDatabase (id : AccountScoped)
  | addDatabase (info : DatabaseInfo)
  /-- A schema is registered of which only the name is known. -/
  | nameSchema (id : DatabaseScoped)
  | addSchema (info : SchemaInfo)
  | removeDatabase (id : AccountScoped)
  | removeSchema (id : DatabaseScoped)

namespace Change

/-- The registry after a change. -/
def applyTo (registry : Registry) : Change → Registry
  | nameDatabase id => registry.addDatabase (.ofName id)
  | addDatabase info => registry.addDatabase info
  | nameSchema id => registry.addSchema (.ofName id)
  | addSchema info => registry.addSchema info
  | removeDatabase id => registry.removeDatabase id
  | removeSchema id => registry.removeSchema id

/-- The change registers a database, alone or along with a schema. -/
def AddsDatabase (id : AccountScoped) : Change → Prop
  | nameDatabase added => id = added
  | addDatabase info => id = info.name
  | nameSchema added => id = added.databaseId
  | addSchema info => id = info.database
  | removeDatabase _ | removeSchema _ => False

def RemovesDatabase (id : AccountScoped) : Change → Prop
  | removeDatabase removed => id = removed
  | _ => False

def AddsSchema (id : DatabaseScoped) : Change → Prop
  | nameSchema added => id = added
  | addSchema info => id = info.name
  | _ => False

/-- The change removes a schema, alone or along with its database. -/
def RemovesSchema (id : DatabaseScoped) : Change → Prop
  | removeDatabase removed => id.databaseId = removed
  | removeSchema removed => id = removed
  | _ => False

variable {id : DatabaseScoped} {change : Change}

theorem AddsSchema.addsDatabase (h : change.AddsSchema id) : change.AddsDatabase id.databaseId := by
  cases change with
  | nameSchema | addSchema => exact congrArg DatabaseScoped.databaseId h
  | nameDatabase | addDatabase | removeDatabase | removeSchema => exact h.elim

theorem RemovesDatabase.removesSchema (h : change.RemovesDatabase id.databaseId) :
    change.RemovesSchema id := by
  cases change with
  | removeDatabase => exact h
  | nameDatabase | addDatabase | nameSchema | addSchema | removeSchema => exact h.elim

end Change

/-- The registry that a run of changes leads to, from the empty one on. -/
def after (changes : List Change) : Registry :=
  changes.foldl Change.applyTo empty

theorem after_append_singleton (changes : List Change) (change : Change) :
    after (changes ++ [change]) = change.applyTo (after changes) := by
  simp [after]

/-! ## What stands after a run -/

/-- A change of the run adds something, and no later one removes it. -/
def Stands (adds removes : Change → Prop) (changes : List Change) : Prop :=
  ∃ front change back, changes = front ++ change :: back ∧ adds change ∧
    ∀ later ∈ back, ¬ removes later

section Stands

variable {adds removes adds' removes' : Change → Prop} {changes : List Change}

theorem not_stands_nil : ¬ Stands adds removes [] :=
  not_happenedSince_nil

/-- The last change decides, if it is about the matter at all. -/
theorem stands_append_singleton_iff {change : Change} :
    Stands adds removes (changes ++ [change]) ↔
      adds change ∨ Stands adds removes changes ∧ ¬ removes change :=
  happenedSince_append_singleton_iff (fun _ => adds) removes changes change

theorem Stands.imp (h : Stands adds removes changes) (adding : ∀ change, adds change → adds' change)
    (removing : ∀ change, removes' change → removes change) : Stands adds' removes' changes := by
  obtain ⟨front, change, back, split, adds, kept⟩ := h
  exact ⟨front, change, back, split, adding change adds,
    fun later mem removed => kept later mem (removing later removed)⟩

/-- What each change adds and removes in its step stands after the run if it is there. -/
theorem iff_stands_of_step {P : Registry → Prop} (start : ¬ P empty)
    (step : ∀ registry (change : Change),
      P (change.applyTo registry) ↔ adds change ∨ P registry ∧ ¬ removes change)
    (changes : List Change) : P (after changes) ↔ Stands adds removes changes := by
  induction changes using List.reverseRecOn with
  | nil => exact iff_of_false start not_stands_nil
  | append_singleton changes change ih =>
      rw [after_append_singleton, step, ih, stands_append_singleton_iff]

end Stands

/-! ### One change -/

theorem hasDatabase_applyTo_iff (registry : Registry) (change : Change) (id : AccountScoped) :
    (change.applyTo registry).hasDatabase id = true ↔
      change.AddsDatabase id ∨ registry.hasDatabase id = true ∧ ¬ change.RemovesDatabase id := by
  simp only [hasDatabase]
  cases change with
  | nameDatabase added | addDatabase info =>
      simp only [Change.applyTo, database?_addDatabase]
      split <;> simp_all [Change.AddsDatabase, Change.RemovesDatabase, DatabaseInfo.ofName]
  | nameSchema added | addSchema info =>
      simp only [Change.applyTo, database?_addSchema]
      split <;> simp_all [Change.AddsDatabase, Change.RemovesDatabase, SchemaInfo.ofName,
        SchemaInfo.database]
  | removeDatabase removed =>
      simp only [Change.applyTo, database?_removeDatabase]
      split <;> simp_all [Change.AddsDatabase, Change.RemovesDatabase]
  | removeSchema removed =>
      simp [Change.applyTo, database?_removeSchema, Change.AddsDatabase, Change.RemovesDatabase]

theorem hasSchema_applyTo_iff (registry : Registry) (change : Change) (id : DatabaseScoped) :
    (change.applyTo registry).hasSchema id = true ↔
      change.AddsSchema id ∨ registry.hasSchema id = true ∧ ¬ change.RemovesSchema id := by
  simp only [hasSchema]
  cases change with
  | nameDatabase | addDatabase =>
      simp [Change.applyTo, schema?_addDatabase, Change.AddsSchema, Change.RemovesSchema]
  | nameSchema added | addSchema info =>
      simp only [Change.applyTo, schema?_addSchema]
      split <;> simp_all [Change.AddsSchema, Change.RemovesSchema, SchemaInfo.ofName]
  | removeDatabase removed =>
      simp only [Change.applyTo, schema?_removeDatabase]
      split <;> simp_all [Change.AddsSchema, Change.RemovesSchema]
  | removeSchema removed =>
      simp only [Change.applyTo, schema?_removeSchema]
      split <;> simp_all [Change.AddsSchema, Change.RemovesSchema]

/-! ### A whole run -/

/-- A database is known after a run if a change added it and no later one removed it. -/
theorem hasDatabase_after_iff (changes : List Change) (id : AccountScoped) :
    (after changes).hasDatabase id = true ↔
      Stands (Change.AddsDatabase id) (Change.RemovesDatabase id) changes :=
  iff_stands_of_step (P := fun registry => registry.hasDatabase id = true)
    (by simp [hasDatabase, database?, empty])
    (fun registry change => hasDatabase_applyTo_iff registry change id) changes

/-- A schema is known after a run if a change added it and no later one removed it. -/
theorem hasSchema_after_iff (changes : List Change) (id : DatabaseScoped) :
    (after changes).hasSchema id = true ↔
      Stands (Change.AddsSchema id) (Change.RemovesSchema id) changes :=
  iff_stands_of_step (P := fun registry => registry.hasSchema id = true)
    (by simp [hasSchema, schema?, empty])
    (fun registry change => hasSchema_applyTo_iff registry change id) changes

/-- **A schema is known only along with its database.** -/
theorem hasDatabase_after_of_hasSchema {changes : List Change} {id : DatabaseScoped}
    (h : (after changes).hasSchema id = true) :
      (after changes).hasDatabase id.databaseId = true := by
  rw [hasDatabase_after_iff]
  rw [hasSchema_after_iff] at h
  exact h.imp (fun _ => Change.AddsSchema.addsDatabase)
    (fun _ => Change.RemovesDatabase.removesSchema)

/-! ## What a registry answers -/

/-- A registered database is shown under its own name. -/
theorem exists_showDatabase_eq_ok {id : AccountScoped} (h : registry.hasDatabase id = true) :
    ∃ info, registry.showDatabase id = .ok info ∧ info.name = id := by
  obtain ⟨info, found⟩ := Option.isSome_iff_exists.mp h
  refine ⟨info, by rw [showDatabase, found], ?_⟩
  simpa using List.find?_some found

theorem showDatabase_eq_error {id : AccountScoped} (h : registry.hasDatabase id = false) :
    registry.showDatabase id = .error (.notFound (Identifier.account id).text) := by
  have unknown : registry.database? id = none := by simpa [hasDatabase] using h
  rw [showDatabase, unknown]

/-- A registered schema is shown under its own name. -/
theorem exists_showSchema_eq_ok {id : DatabaseScoped} (h : registry.hasSchema id = true) :
    ∃ info, registry.showSchema id = .ok info ∧ info.name = id := by
  obtain ⟨info, found⟩ := Option.isSome_iff_exists.mp h
  refine ⟨info, by rw [showSchema, found], ?_⟩
  simpa using List.find?_some found

theorem showSchema_eq_error {id : DatabaseScoped} (h : registry.hasSchema id = false) :
    registry.showSchema id = .error (.notFound (Identifier.database id).text) := by
  have unknown : registry.schema? id = none := by simpa [hasSchema] using h
  rw [showSchema, unknown]

/-- Two registries answer the same about a database. -/
def SameDatabase (id : AccountScoped) (registry other : Registry) : Prop :=
  registry.hasDatabase id = other.hasDatabase id ∧ registry.showDatabase id = other.showDatabase id

/-- Two registries answer the same about a schema. -/
def SameSchema (id : DatabaseScoped) (registry other : Registry) : Prop :=
  registry.hasSchema id = other.hasSchema id ∧ registry.showSchema id = other.showSchema id

theorem sameDatabase_of_eq {other : Registry} {id : AccountScoped}
    (h : registry.database? id = other.database? id) : SameDatabase id registry other :=
  ⟨congrArg Option.isSome h, by rw [showDatabase, showDatabase, h]⟩

theorem sameSchema_of_eq {other : Registry} {id : DatabaseScoped}
    (h : registry.schema? id = other.schema? id) : SameSchema id registry other :=
  ⟨congrArg Option.isSome h, by rw [showSchema, showSchema, h]⟩

theorem showDatabase_removeDatabase_self (id : AccountScoped) :
    (registry.removeDatabase id).showDatabase id =
      .error (.notFound (Identifier.account id).text) := by
  refine showDatabase_eq_error ?_
  simp [hasDatabase, database?_removeDatabase]

theorem showSchema_removeDatabase {id : AccountScoped} {schema : DatabaseScoped}
    (h : schema.databaseId = id) : (registry.removeDatabase id).showSchema schema =
      .error (.notFound (Identifier.database schema).text) := by
  refine showSchema_eq_error ?_
  simp [hasSchema, schema?_removeDatabase, h]

/-- A database that is known keeps its description when a schema is registered. -/
theorem database?_addSchema_of_hasDatabase {info : SchemaInfo} {id : AccountScoped}
    (h : id ≠ info.database ∨ registry.hasDatabase id = true) :
    (registry.addSchema info).database? id = registry.database? id := by
  rw [database?_addSchema]
  split
  next same =>
    obtain ⟨known, found⟩ := Option.isSome_iff_exists.mp (h.resolve_left (not_not_intro same))
    rw [found, Option.getD_some]
  next => rfl

/-- What a registry answers after a run, and what the next change does to that. -/
structure IsWellKept (changes : List Change) (registry : Registry) : Prop where
  /-- A schema is known only along with its database. -/
  nested : ∀ id : DatabaseScoped, registry.hasSchema id = true →
    registry.hasDatabase id.databaseId = true
  /-- A database is known if a change added it and no later one removed it. -/
  databases : ∀ id, registry.hasDatabase id = true ↔
    Stands (Change.AddsDatabase id) (Change.RemovesDatabase id) changes
  /-- A schema is known if a change added it and no later one removed it. -/
  schemas : ∀ id, registry.hasSchema id = true ↔
    Stands (Change.AddsSchema id) (Change.RemovesSchema id) changes
  /-- A database that is known is shown under its own name, and any other is not found. -/
  showDatabase : ∀ id,
    (registry.hasDatabase id = true →
      ∃ info, registry.showDatabase id = .ok info ∧ info.name = id) ∧
    (registry.hasDatabase id = false →
      registry.showDatabase id = .error (.notFound (Identifier.account id).text))
  /-- A schema that is known is shown under its own name, and any other is not found. -/
  showSchema : ∀ id,
    (registry.hasSchema id = true → ∃ info, registry.showSchema id = .ok info ∧ info.name = id) ∧
    (registry.hasSchema id = false →
      registry.showSchema id = .error (.notFound (Identifier.database id).text))
  /-- A removed database is not found, nor are its schemas. -/
  removed : ∀ id,
    (registry.removeDatabase id).showDatabase id = .error (.notFound (Identifier.account id).text) ∧
    ∀ schema : DatabaseScoped, schema.databaseId = id →
      (registry.removeDatabase id).showSchema schema =
        .error (.notFound (Identifier.database schema).text)
  /-- Removing a database changes nothing about other databases and their schemas. -/
  kept : ∀ id,
    (∀ other, other ≠ id → SameDatabase other (registry.removeDatabase id) registry) ∧
    ∀ schema : DatabaseScoped, schema.databaseId ≠ id →
      SameSchema schema (registry.removeDatabase id) registry
  /-- Registering a schema changes nothing about other schemas, and about databases only that its
  own is known from then on; of one that was known before, nothing changes. -/
  addSchema : ∀ info,
    (∀ other, other ≠ info.name → SameSchema other (registry.addSchema info) registry) ∧
    ∀ id, id ≠ info.database ∨ registry.hasDatabase id = true →
      SameDatabase id (registry.addSchema info) registry
  /-- Registering a database, even again, changes nothing about schemas. -/
  addDatabase : ∀ info schema, SameSchema schema (registry.addDatabase info) registry

/-- **Every run leads to a registry that is well kept.** -/
theorem after_is_well_kept (changes : List Change) : IsWellKept changes (after changes) where
  nested _ := hasDatabase_after_of_hasSchema
  databases := hasDatabase_after_iff changes
  schemas := hasSchema_after_iff changes
  showDatabase _ := ⟨exists_showDatabase_eq_ok, showDatabase_eq_error⟩
  showSchema _ := ⟨exists_showSchema_eq_ok, showSchema_eq_error⟩
  removed id := ⟨showDatabase_removeDatabase_self id, fun _ => showSchema_removeDatabase⟩
  kept id := by
    refine ⟨fun other different => sameDatabase_of_eq ?_,
      fun schema different => sameSchema_of_eq ?_⟩
    · rw [database?_removeDatabase, if_neg different]
    · rw [schema?_removeDatabase, if_neg different]
  addSchema info := by
    refine ⟨fun other different => sameSchema_of_eq ?_, fun id h => sameDatabase_of_eq ?_⟩
    · rw [schema?_addSchema, if_neg different]
    · exact database?_addSchema_of_hasDatabase h
  addDatabase info schema := sameSchema_of_eq (schema?_addDatabase info schema)

end Registry

end WarehouseAdmin
