import WarehouseAdmin.Identifier.Basic
import WarehouseAdmin.Json.Printer

/-!
# Identifiers as JSON

An identifier is serialized as an object with one member, whose name tells the depth and whose value
is a record of the parts.  Reading accepts the record as an array of its parts too, and brings the
argument types of a signature to their normal form.
-/

namespace WarehouseAdmin

namespace AccountScoped

def toJson (id : AccountScoped) : Json :=
  .ofMembers [("name", .ofString id.name)]

def ofJson? (document : Json) : Option AccountScoped :=
  match document.record? ["name"] with
  | some [some name] => name.text?.map (⟨·⟩)
  | _ => none

end AccountScoped

namespace DatabaseScoped

def toJson (id : DatabaseScoped) : Json :=
  .ofMembers [("database", .ofString id.database), ("name", .ofString id.name)]

def ofJson? (document : Json) : Option DatabaseScoped :=
  match document.record? ["database", "name"] with
  | some [some database, some name] => do return ⟨← database.text?, ← name.text?⟩
  | _ => none

end DatabaseScoped

namespace SchemaScoped

def toJson (id : SchemaScoped) : Json :=
  .ofMembers
    [("database", .ofString id.database), ("schema", .ofString id.schema),
      ("name", .ofString id.name)]

def ofJson? (document : Json) : Option SchemaScoped :=
  match document.record? ["database", "schema", "name"] with
  | some [some database, some schema, some name] => do
    return ⟨← database.text?, ← schema.text?, ← name.text?⟩
  | _ => none

end SchemaScoped

namespace Signature

def toJson (id : Signature) : Json :=
  .ofMembers
    [("database", .ofString id.database), ("schema", .ofString id.schema),
      ("name", .ofString id.name),
      ("arguments", .ofTexts (id.arguments.map (·.text)))]

/-- The argument texts need not be in normal form, and blank ones are dropped. -/
def ofJson? (document : Json) : Option Signature :=
  match document.record? ["database", "schema", "name", "arguments"] with
  | some [some database, some schema, some name, some arguments] => do
    let base : SchemaScoped := ⟨← database.text?, ← schema.text?, ← name.text?⟩
    return base.withArguments (← arguments.texts?)
  | _ => none

end Signature

namespace Identifier

/-- The name of a level in serialized identifiers. -/
def Level.tag : Level → String
  | .account => "Account"
  | .database => "Database"
  | .schema => "Schema"
  | .signature => "SchemaWithArguments"

def toJson (id : Identifier) : Json :=
  .tagged id.level.tag <| match id with
    | .account id => id.toJson
    | .database id => id.toJson
    | .schema id => id.toJson
    | .signature id => id.toJson

/-- The identifier that a document with exactly one member is. -/
def ofJson? : Json → Option Identifier
  | .object [(some tag, content)] =>
    if tag = Level.account.tag then (AccountScoped.ofJson? content).map .account
    else if tag = Level.database.tag then (DatabaseScoped.ofJson? content).map .database
    else if tag = Level.schema.tag then (SchemaScoped.ofJson? content).map .schema
    else if tag = Level.signature.tag then (Signature.ofJson? content).map .signature
    else none
  | _ => none

end Identifier

/-- A container as JSON, in the same form as an identifier. -/
def Container.toJson : Container → Json
  | .schema id => .tagged Identifier.Level.schema.tag id.toJson
  | .database id => .tagged Identifier.Level.database.tag id.toJson

end WarehouseAdmin
