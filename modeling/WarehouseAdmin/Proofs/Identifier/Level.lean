import WarehouseAdmin.Proofs.Identifier.Reading
import WarehouseAdmin.Proofs.Outcome

/-!
# Reading at one level

A text can be read as an identifier of whatever level it has, or as an identifier of the one level
that the caller needs.  These are five readers.  They share the step from the text to its shape, and
then each makes its own case distinction on the number of parts and on the argument list.

Four of the readers differ in their level only, so they are one family here (`Level.read`), and
`Level.fit_eq_ok_iff` compares its step on shapes with the step of the fifth.  The rest follows from
this: an identifier has one level, so the readers of two levels never accept the same text.

When a text has a shape, the readers that refuse it say what they miss, and this is not the same for
all of them.  A fault that all five report is therefore a fault of the text itself.

## Main statements

* `Level.read_eq_ok_iff` — the reader of a level accepts the texts of that level, and reads them
  alike.
* `readers_agree` — the agreement of the five readers, on accepted and on malformed texts.
-/

namespace WarehouseAdmin.Identifier

namespace Level

/-! ## The readers by level -/

/-- The identifiers of a level. -/
abbrev Id : Level → Type
  | .account => AccountScoped
  | .database => DatabaseScoped
  | .schema => SchemaScoped
  | .signature => Signature

/-- An identifier of a level, as an identifier of any. -/
def toIdentifier : (level : Level) → level.Id → Identifier
  | .account => .account
  | .database => .database
  | .schema => .schema
  | .signature => .signature

/-- The identifier of a shape, if the shape has the level. -/
def fit : (level : Level) → Shape → Except Fault level.Id
  | .account => AccountScoped.ofShape
  | .database => DatabaseScoped.ofShape
  | .schema => SchemaScoped.ofShape
  | .signature => Signature.ofShape

/-- The reader of a level. -/
def read : (level : Level) → String → Except Malformed level.Id
  | .account => AccountScoped.ofText
  | .database => DatabaseScoped.ofText
  | .schema => SchemaScoped.ofText
  | .signature => Signature.ofText

variable {level : Level} {shape : Shape} {s : String}

theorem read_eq (level : Level) (s : String) :
    level.read s = blame s ((Shape.ofText s).bind level.fit) := by
  cases level <;> rfl

@[simp] theorem level_toIdentifier (level : Level) (id : level.Id) :
    (level.toIdentifier id).level = level := by
  cases level <;> rfl

/-- Every identifier is one of its own level. -/
theorem exists_toIdentifier (id : Identifier) : ∃ id', id.level.toIdentifier id' = id := by
  cases id with
  | account id | database id | schema id | signature id => exact ⟨id, rfl⟩

/-! ## One shape, two readers -/

/-- A shape is fitted to a level alike by the reader of the level and by the reader of all levels.
-/
theorem fit_eq_ok_iff {id : level.Id} :
    level.fit shape = .ok id ↔ ofShape shape = .ok (level.toIdentifier id) := by
  rw [ofShape_eq_ok_iff]
  constructor
  · intro fitted
    cases level with
    | account | database | schema | signature =>
        dsimp only [fit, AccountScoped.ofShape, DatabaseScoped.ofShape, SchemaScoped.ofShape,
          Signature.ofShape] at fitted
        split at fitted <;> first
          | (obtain rfl := Except.ok.inj fitted; exact ⟨rfl, rfl⟩)
          | simp at fitted
  · rintro ⟨parts, arguments⟩
    obtain ⟨values, texts⟩ := shape
    obtain rfl : (level.toIdentifier id).parts = values := parts
    cases level with
    | signature =>
        cases texts with
        | none => simp [toIdentifier, arguments?] at arguments
        | some texts =>
            obtain ⟨db, sch, name, types⟩ := id
            obtain rfl := Option.some.inj arguments
            rfl
    | account | database | schema =>
        cases texts with
        | none => rfl
        | some texts => simp [toIdentifier, arguments?] at arguments

/-- Whatever the shape, a name without arguments and a signature are not missed for the same reason:
one of the two readers wants an argument list and the other does not. -/
theorem fit_signature_ne_of_fit_account {fault : Fault}
    (refused : Level.account.fit shape = .error fault) :
    Level.signature.fit shape ≠ .error fault := by
  obtain ⟨parts, arguments⟩ := shape
  intro refused'
  cases arguments with
  | none =>
      obtain rfl : Fault.argumentsMissing = fault := Except.error.inj refused'
      dsimp only [fit, AccountScoped.ofShape] at refused
      split at refused <;> simp at refused
  | some texts =>
      obtain rfl : Fault.argumentsNotAllowed = fault := Except.error.inj refused
      dsimp only [fit, Signature.ofShape] at refused'
      split at refused' <;> simp at refused'

/-! ## One text, two readers -/

/-- **The reader of a level accepts exactly the texts of that level**, and reads them alike. -/
theorem read_eq_ok_iff {id : level.Id} :
    level.read s = .ok id ↔ ofText s = .ok (level.toIdentifier id) := by
  rw [read_eq, ofText, blame_eq_ok_iff, blame_eq_ok_iff, Except.bind_eq_ok_iff,
    Except.bind_eq_ok_iff]
  simp only [fit_eq_ok_iff]

end Level

variable {s : String}

theorem blame_eq_error_iff {α : Type} {r : Except Fault α} {fault : Fault} :
    blame s r = .error ⟨s, fault⟩ ↔ r = .error fault := by
  cases r <;> simp [blame, Except.mapError]

/-- A fault of the text itself is reported by the readers of all levels, and only such a fault is.
-/
theorem shape_eq_error_iff {fault : Fault} :
    Shape.ofText s = .error fault ↔
      ofText s = .error ⟨s, fault⟩ ∧ ∀ level : Level, level.read s = .error ⟨s, fault⟩ := by
  simp only [Level.read_eq, ofText, blame_eq_error_iff]
  cases read : Shape.ofText s with
  | error fault' =>
      rw [Except.error.injEq]
      exact ⟨fun same => ⟨congrArg _ same, fun _ => congrArg _ same⟩,
        fun all => Except.error.inj all.1⟩
  | ok shape =>
      refine iff_of_false (by simp) fun all => ?_
      exact Level.fit_signature_ne_of_fit_account (all.2 .account) (all.2 .signature)

/-- **The readers agree.**

1. The reader of a level accepts a text as an identifier exactly when the reader of all levels
   accepts it as that identifier.
2. So the readers of two levels never accept the same text,
3. and one of them accepts a text exactly when the reader of all levels does.
4. A text that is malformed itself, whatever the number of its parts, is refused by all five with
   the same error; a text that has a shape is not. -/
theorem readers_agree (s : String) :
    (∀ (level : Level) (id : level.Id),
      level.read s = .ok id ↔ ofText s = .ok (level.toIdentifier id)) ∧
    (∀ (level level' : Level) (id : level.Id) (id' : level'.Id),
      level.read s = .ok id → level'.read s = .ok id' → level = level') ∧
    ((∃ (level : Level) (id : level.Id), level.read s = .ok id) ↔ ∃ id, ofText s = .ok id) ∧
    ∀ fault, Shape.ofText s = .error fault ↔
      ofText s = .error ⟨s, fault⟩ ∧ ∀ level : Level, level.read s = .error ⟨s, fault⟩ := by
  refine ⟨fun level id => Level.read_eq_ok_iff, fun level level' id id' read read' => ?_, ⟨?_, ?_⟩,
    fun fault => shape_eq_error_iff⟩
  · have same := (Level.read_eq_ok_iff.mp read).symm.trans (Level.read_eq_ok_iff.mp read')
    have levels := congrArg Identifier.level (Except.ok.inj same)
    rwa [Level.level_toIdentifier, Level.level_toIdentifier] at levels
  · rintro ⟨level, id, read⟩
    exact ⟨level.toIdentifier id, Level.read_eq_ok_iff.mp read⟩
  · rintro ⟨id, read⟩
    obtain ⟨id', same⟩ := Level.exists_toIdentifier id
    exact ⟨id.level, id', Level.read_eq_ok_iff.mpr (read.trans (congrArg _ same.symm))⟩

end WarehouseAdmin.Identifier
