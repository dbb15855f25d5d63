import WarehouseAdmin.Identifier.Json
import WarehouseAdmin.Proofs.Identifier.Basic
import WarehouseAdmin.Proofs.Identifier.Reading
import WarehouseAdmin.Proofs.Json.RoundTrip
import WarehouseAdmin.Proofs.Outcome
import WarehouseAdmin.Statement.Function

/-!
# Where signatures come from

A signature is built, read from a text, derived from a statement or loaded from JSON (`Origin`).
Whatever it comes from hands over texts for the argument types, and what is kept of them are their
normal forms (`Origin.exists_keeps`).  A normal form is its own normal form, so a signature can be
built again from what it keeps.

This is also why JSON changes nothing: the texts of the types are written as they are and name the
same types again (`Identifier.ofJson?_toJson`), and a written document is read as itself.
-/

namespace WarehouseAdmin

open Identifier (Shape blame_eq_ok_iff)

/-! ### Through JSON and back -/

theorem AccountScoped.ofJson?_toJson (id : AccountScoped) :
    AccountScoped.ofJson? id.toJson = some id :=
  rfl

theorem DatabaseScoped.ofJson?_toJson (id : DatabaseScoped) :
    DatabaseScoped.ofJson? id.toJson = some id :=
  rfl

theorem SchemaScoped.ofJson?_toJson (id : SchemaScoped) :
    SchemaScoped.ofJson? id.toJson = some id :=
  rfl

/-- A signature is built again from its name and the texts of its argument types. -/
theorem Signature.withArguments_base (id : Signature) :
    id.base.withArguments (id.arguments.map (·.text)) = id := by
  have kept : (id.arguments.map (·.text)).filterMap ArgumentType.ofText? = id.arguments := by
    have named : (ArgumentType.ofText? ∘ fun type => type.text) = some := by
      funext type
      rw [Function.comp_apply, type.ofText?_text]
    rw [List.filterMap_map, named, List.filterMap_some]
  rw [SchemaScoped.withArguments, kept]
  rfl

theorem Signature.ofJson?_toJson (id : Signature) : Signature.ofJson? id.toJson = some id := by
  have record : id.toJson.record? ["database", "schema", "name", "arguments"] =
      some [some (.ofString id.database), some (.ofString id.schema), some (.ofString id.name),
        some (.ofTexts (id.arguments.map (·.text)))] := rfl
  rw [Signature.ofJson?, record]
  show ((Json.ofTexts _).texts?.bind fun texts => some (id.base.withArguments texts)) = some id
  rw [Json.texts?_ofTexts, Option.bind_some, id.withArguments_base]

/-- **An identifier is the one that its JSON form is read as**, at every depth. -/
theorem Identifier.ofJson?_toJson (id : Identifier) : Identifier.ofJson? id.toJson = some id := by
  cases id with
  | account id =>
      show (AccountScoped.ofJson? id.toJson).map Identifier.account = some (.account id)
      rw [id.ofJson?_toJson, Option.map_some]
  | database id =>
      show (DatabaseScoped.ofJson? id.toJson).map Identifier.database = some (.database id)
      rw [id.ofJson?_toJson, Option.map_some]
  | schema id =>
      show (SchemaScoped.ofJson? id.toJson).map Identifier.schema = some (.schema id)
      rw [id.ofJson?_toJson, Option.map_some]
  | signature id =>
      show (Signature.ofJson? id.toJson).map Identifier.signature = some (.signature id)
      rw [id.ofJson?_toJson, Option.map_some]

/-- An identifier is written as a document without numbers. -/
theorem Identifier.wellFormed_toJson (id : Identifier) : id.toJson.WellFormed := by
  have text (s : String) : (Json.ofString s).WellFormed := .string (some s)
  cases id <;> refine .ofMembers (List.forall_mem_singleton.mpr (.ofMembers ?_))
  case account => simp [text]
  case database => simp [text]
  case schema => simp [text]
  case signature => simp [text, Json.wellFormed_ofTexts]

namespace Signature

/-! ### Origins -/

/-- What a signature comes from. -/
inductive Origin where
  /-- Nothing: the signature that stands for none. -/
  | unset
  /-- A name and texts for the argument types. -/
  | parts (base : SchemaScoped) (texts : List String)
  /-- A text, read as a signature. -/
  | text (s : String)
  /-- A text, read as an identifier of any depth. -/
  | anyText (s : String)
  /-- The statement that creates the function. -/
  | statement (statement : CreateFunction)
  /-- A document, loaded as a signature. -/
  | json (document : Json)
  /-- A document, loaded as an identifier of any depth. -/
  | anyJson (document : Json)

/-- The signature that an identifier is. -/
def ofIdentifier? : Identifier → Option Signature
  | .signature id => some id
  | _ => none

/-- The argument texts in a document of a signature. -/
def argumentTexts? (document : Json) : Option (List String) :=
  match document.record? ["database", "schema", "name", "arguments"] with
  | some [_, _, _, some arguments] => arguments.texts?
  | _ => none

namespace Origin

/-- The signature that comes of it, if one does. -/
def signature? : Origin → Option Signature
  | .unset => some .unset
  | .parts base texts => some (base.withArguments texts)
  | .text s => (Signature.ofText s).toOption
  | .anyText s => (Identifier.ofText s).toOption.bind ofIdentifier?
  | .statement create => some create.signature
  | .json document => Signature.ofJson? document
  | .anyJson document => (Identifier.ofJson? document).bind ofIdentifier?

/-- The texts that it has for the argument types. -/
def texts? : Origin → Option (List String)
  | .unset => some []
  | .parts _ texts => some texts
  | .text s | .anyText s => (Shape.ofText s).toOption.bind (·.arguments)
  | .statement create => some (create.parameters.map (·.dataType))
  | .json document => argumentTexts? document
  | .anyJson (.object [(_, content)]) => argumentTexts? content
  | .anyJson _ => none

end Origin

/-- What is kept of texts for argument types: their normal forms, without the blank ones. -/
def normalForms (texts : List String) : List String :=
  (texts.map ArgumentType.normalize).filter (· ≠ "")

/-- A signature keeps the normal forms of these texts. -/
def Keeps (id : Signature) (texts : List String) : Prop :=
  id.arguments.map (·.text) = normalForms texts

variable {id : Signature}

theorem Keeps.of_arguments {texts : List String}
    (h : id.arguments = texts.filterMap ArgumentType.ofText?) : id.Keeps texts := by
  rw [Keeps, h]
  exact ArgumentType.map_text_filterMap texts

theorem keeps_withArguments (base : SchemaScoped) (texts : List String) :
    (base.withArguments texts).Keeps texts :=
  .of_arguments rfl

/-- A shape that is a signature has argument texts. -/
theorem exists_keeps_of_ofShape {shape : Shape} (h : Signature.ofShape shape = .ok id) :
    ∃ texts, shape.arguments = some texts ∧ id.Keeps texts := by
  unfold Signature.ofShape at h
  split at h
  · simp at h
  next database schema name texts =>
    obtain rfl := Except.ok.inj h
    exact ⟨texts, rfl, keeps_withArguments _ texts⟩
  · simp at h

/-- The same of a shape of which no depth is asked. -/
theorem exists_keeps_of_identifier_ofShape {shape : Shape}
    (h : Identifier.ofShape shape = .ok (.signature id)) :
    ∃ texts, shape.arguments = some texts ∧ id.Keeps texts := by
  obtain ⟨-, arguments⟩ := Identifier.ofShape_eq_ok_iff.mp h
  obtain ⟨texts, has, same⟩ := Option.map_eq_some_iff.mp arguments.symm
  exact ⟨texts, has, .of_arguments same.symm⟩

/-- A document that is a signature has argument texts. -/
theorem exists_keeps_of_ofJson? {document : Json} (h : Signature.ofJson? document = some id) :
    ∃ texts, argumentTexts? document = some texts ∧ id.Keeps texts := by
  unfold Signature.ofJson? at h
  split at h
  next database schema name arguments record =>
    simp only [Option.bind_eq_bind, Option.bind_eq_some_iff, Option.pure_def,
      Option.some.injEq] at h
    obtain ⟨_, -, _, -, _, -, texts, read, rfl⟩ := h
    refine ⟨texts, ?_, keeps_withArguments _ texts⟩
    rw [argumentTexts?, record]
    exact read
  · simp at h

theorem ofIdentifier?_eq_some_iff {any : Identifier} :
    ofIdentifier? any = some id ↔ any = .signature id := by
  cases any <;> simp [ofIdentifier?]

/-- A document that is an identifier with argument types holds one of a signature. -/
theorem exists_content_of_ofJson? {document : Json}
    (h : Identifier.ofJson? document = some (.signature id)) :
    ∃ tag content, document = .object [(tag, content)] ∧ Signature.ofJson? content = some id := by
  unfold Identifier.ofJson? at h
  split at h
  next tag content =>
    refine ⟨some tag, content, rfl, ?_⟩
    split at h
    · simp at h
    split at h
    · simp at h
    split at h
    · simp at h
    split at h
    · simpa using h
    · simp at h
  · simp at h

/-- **Whatever a signature comes from**, it keeps the normal forms of the texts it got there. -/
theorem Origin.exists_keeps {origin : Origin} (h : origin.signature? = some id) :
    ∃ texts, origin.texts? = some texts ∧ id.Keeps texts := by
  cases origin with
  | unset =>
      obtain rfl := Option.some.inj h
      exact ⟨[], rfl, rfl⟩
  | parts base texts =>
      obtain rfl := Option.some.inj h
      exact ⟨texts, rfl, keeps_withArguments base texts⟩
  | text s =>
      have read : Signature.ofText s = .ok id := Except.toOption_eq_some_iff.mp h
      obtain ⟨shape, hshape, fit⟩ := Except.bind_eq_ok_iff.mp (blame_eq_ok_iff.mp read)
      show ∃ texts, (Shape.ofText s).toOption.bind (·.arguments) = some texts ∧ id.Keeps texts
      rw [hshape]
      exact exists_keeps_of_ofShape fit
  | anyText s =>
      obtain ⟨any, present, same⟩ := Option.bind_eq_some_iff.mp h
      obtain rfl := ofIdentifier?_eq_some_iff.mp same
      have read : Identifier.ofText s = .ok _ := Except.toOption_eq_some_iff.mp present
      obtain ⟨shape, hshape, fit⟩ := Except.bind_eq_ok_iff.mp (blame_eq_ok_iff.mp read)
      show ∃ texts, (Shape.ofText s).toOption.bind (·.arguments) = some texts ∧ id.Keeps texts
      rw [hshape]
      exact exists_keeps_of_identifier_ofShape fit
  | statement create =>
      obtain rfl := Option.some.inj h
      exact ⟨_, rfl, keeps_withArguments create.name _⟩
  | json document => exact exists_keeps_of_ofJson? h
  | anyJson document =>
      obtain ⟨any, loaded, same⟩ := Option.bind_eq_some_iff.mp h
      obtain rfl := ofIdentifier?_eq_some_iff.mp same
      obtain ⟨tag, content, rfl, inner⟩ := exists_content_of_ofJson? loaded
      exact exists_keeps_of_ofJson? inner

/-- **Signatures keep their argument types in normal form, and JSON changes no identifier.**
Whatever a signature comes from, the texts of its argument types are the normal forms of the texts
it got there.  Each of them is not empty, evenly spaced and without small letters, so building the
signature again from what it keeps gives the same one.  And every identifier is read back from its
JSON form, as a document and as a text. -/
theorem arguments_normal_and_json_round_trip :
    (∀ origin : Origin, ∀ id ∈ origin.signature?,
      (∃ texts ∈ origin.texts?, id.Keeps texts) ∧
        (∀ type ∈ id.arguments, ArgumentType.IsNormal type.text) ∧
        id.base.withArguments (id.arguments.map (·.text)) = id) ∧
    ∀ id : Identifier,
      Identifier.ofJson? id.toJson = some id ∧
        (Json.read? id.toJson.render).bind Identifier.ofJson? = some id := by
  constructor
  · intro origin id hid
    refine ⟨?_, ?_, id.withArguments_base⟩
    · obtain ⟨texts, has, keeps⟩ := Origin.exists_keeps hid
      exact ⟨texts, has, keeps⟩
    · intro type _
      exact ArgumentType.isNormal_iff.mpr ⟨type, rfl⟩
  · intro id
    refine ⟨id.ofJson?_toJson, ?_⟩
    rw [Json.read?_render id.wellFormed_toJson]
    exact id.ofJson?_toJson

/-- Blanks around a type, small letters and an empty type do not outlive the loading of a document.
-/
theorem arguments_normal_and_json_round_trip_loaded :
    ∃ id ∈ Origin.signature? (.json (.ofMembers
        [("database", .ofString "DB"), ("schema", .ofString "S"), ("name", .ofString "F"),
          ("arguments", .ofTexts [" varchar ", ""])])),
      id.arguments.map (·.text) = ["VARCHAR"] ∧
        ∀ type ∈ id.arguments, ArgumentType.IsNormal type.text := by
  have loaded : SchemaScoped.withArguments ⟨"DB", "S", "F"⟩ [" varchar ", ""] ∈
      Origin.signature? (.json (.ofMembers
        [("database", .ofString "DB"), ("schema", .ofString "S"), ("name", .ofString "F"),
          ("arguments", .ofTexts [" varchar ", ""])])) := rfl
  exact ⟨_, loaded, by decide, (arguments_normal_and_json_round_trip.1 _ _ loaded).2.1⟩

end Signature

end WarehouseAdmin
