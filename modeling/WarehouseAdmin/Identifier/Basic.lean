import WarehouseAdmin.Text.Basic

/-!
# Identifiers

The objects of an account form a hierarchy: databases hold schemas, and schemas hold tables,
functions and the like.  An identifier names an object by the parts that lead to it, and what may
stand in a field depends on how deep the object lies.  So there is one type per depth, and
`Identifier` is their union.

Functions may share a name and differ in the types of their arguments.  The types are then part of
the identity, and the identifier is a `Signature`.

## Main definitions

* `ArgumentType`, `ArgumentType.ofText?` — a non-empty text in normal form, and the type that a text
  names.
* `Part.isPlain`, `Part.write` — whether a part is written as it is, and how it stands in a
  statement.
* `AccountScoped`, `DatabaseScoped`, `SchemaScoped`, `Signature` — identifiers by depth.
* `Identifier` — an identifier of any depth.
* `Identifier.text` — the one way an identifier is written in a statement.
* `Container`, `Identifier.ancestors` — what an object lies in, nearest first.

`ArgumentType.normalize_normalize` says that a normal form is its own normal form.
-/

namespace WarehouseAdmin

/-! ## Argument types

A signature lists the data types of its arguments.  The same type can be written with other blanks
and in other case, so it is kept in one normal form: its words in ASCII upper case, with single
spaces between them.  A blank text names no type.
-/

/-- The words of a text in ASCII upper case, with single spaces between them. -/
def ArgumentType.normalize (s : String) : String :=
  String.ofList (Text.unwords ((Text.words s.toList).map (·.map Char.toUpper)))

/-- The data type of an argument: a non-empty text in normal form. -/
structure ArgumentType where
  text : String
  normal : ArgumentType.normalize text = text
  ne_empty : text ≠ ""
  deriving DecidableEq

namespace ArgumentType

/-- A normal form is its own normal form. -/
theorem normalize_normalize (s : String) : normalize (normalize s) = normalize s := by
  have folded : ∀ w ∈ (Text.words s.toList).map (·.map Char.toUpper), Text.IsWord w := by
    intro w hw
    obtain ⟨v, hv, rfl⟩ := List.mem_map.1 hw
    exact (Text.isWord_of_mem_words hv).map_toUpper
  unfold normalize
  rw [String.toList_ofList, Text.words_unwords folded, List.map_map]
  refine congrArg (fun ws => String.ofList (Text.unwords ws)) (List.map_congr_left fun w _ => ?_)
  show (w.map Char.toUpper).map Char.toUpper = w.map Char.toUpper
  rw [List.map_map]
  exact List.map_congr_left fun c _ => Text.toUpper_toUpper c

/-- The type that a text names, if the text is not blank. -/
def ofText? (s : String) : Option ArgumentType :=
  if h : normalize s = "" then none else some ⟨normalize s, normalize_normalize s, h⟩

end ArgumentType

end WarehouseAdmin

namespace WarehouseAdmin.Part

/-! ## Parts of a name

An object's name is a sequence of parts.  A part that has the shape of a plain word, and is no
reserved word, is written as it is; any other part is quoted, so that every text can be a part.
-/

/-- The words that are always quoted as parts of a name. -/
def reserved : List String :=
  ["ALL", "ALTER", "AND", "ANY", "AS", "BETWEEN", "BY", "CHECK", "COLUMN", "CONNECT", "CREATE",
    "CURRENT", "DELETE", "DISTINCT", "DROP", "ELSE", "EXISTS", "FOR", "FROM", "GRANT", "GROUP",
    "HAVING", "IN", "INSERT", "INTERSECT", "INTO", "IS", "LIKE", "NOT", "NULL", "OF", "ON", "OR",
    "ORDER", "REVOKE", "ROW", "ROWS", "SELECT", "SET", "START", "TABLE", "THEN", "TO", "TRIGGER",
    "UNION", "UNIQUE", "UPDATE", "VALUES", "WHERE", "WITH"]

/-- The characters a plain part begins with: an ASCII capital or an underscore. -/
def startsPlain (c : Char) : Bool :=
  c.isUpper || c = '_'

/-- The characters a plain part goes on with: also digits and the dollar sign. -/
def continuesPlain (c : Char) : Bool :=
  c.isUpper || c.isDigit || c = '_' || c = '$'

/-- The shape of a plain word. -/
def hasPlainShape : List Char → Bool
  | [] => false
  | c :: s => startsPlain c && s.all continuesPlain

/-- Whether a part is written as it is. -/
def isPlain (part : String) : Bool :=
  hasPlainShape part.toList && !reserved.contains part

/-- A part as it stands in a statement: plain, or between double quotes. -/
def write (part : String) : String :=
  if isPlain part then part else Text.enclose '"' part

end WarehouseAdmin.Part

namespace WarehouseAdmin

/-! ## Identifiers -/

/-- The name of an object directly in the account: a database, a warehouse, a role. -/
structure AccountScoped where
  name : String
  deriving DecidableEq

/-- The name of an object directly in a database, such as a schema. -/
structure DatabaseScoped where
  database : String
  name : String
  deriving DecidableEq

/-- The name of an object in a schema, such as a table. -/
structure SchemaScoped where
  database : String
  schema : String
  name : String
  deriving DecidableEq

/-- The name of an object in a schema together with the types of its arguments. -/
structure Signature where
  database : String
  schema : String
  name : String
  arguments : List ArgumentType
  deriving DecidableEq

/-- An identifier of any depth. -/
inductive Identifier where
  | account (id : AccountScoped)
  | database (id : DatabaseScoped)
  | schema (id : SchemaScoped)
  | signature (id : Signature)
  deriving DecidableEq

instance : Coe AccountScoped Identifier := ⟨.account⟩
instance : Coe DatabaseScoped Identifier := ⟨.database⟩
instance : Coe SchemaScoped Identifier := ⟨.schema⟩
instance : Coe Signature Identifier := ⟨.signature⟩

/-! ### Names that are not set -/

/-- The name that stands for no name. -/
def AccountScoped.unset : AccountScoped := ⟨""⟩

/-- The name that stands for no name. -/
def DatabaseScoped.unset : DatabaseScoped := ⟨"", ""⟩

/-- The name that stands for no name. -/
def SchemaScoped.unset : SchemaScoped := ⟨"", "", ""⟩

/-- The name that stands for no name. -/
def Signature.unset : Signature := ⟨"", "", "", []⟩

/-! ### From one depth to another -/

/-- The database that a database's member lies in. -/
def DatabaseScoped.databaseId (id : DatabaseScoped) : AccountScoped :=
  ⟨id.database⟩

/-- The database that a schema's member lies in. -/
def SchemaScoped.databaseId (id : SchemaScoped) : AccountScoped :=
  ⟨id.database⟩

/-- The schema that a schema's member lies in. -/
def SchemaScoped.schemaId (id : SchemaScoped) : DatabaseScoped :=
  ⟨id.database, id.schema⟩

/-- The signature with the argument types that the texts name, in order; a blank text names none. -/
def SchemaScoped.withArguments (id : SchemaScoped) (types : List String) : Signature :=
  ⟨id.database, id.schema, id.name, types.filterMap ArgumentType.ofText?⟩

/-- The name without the types of its arguments. -/
def Signature.base (id : Signature) : SchemaScoped :=
  ⟨id.database, id.schema, id.name⟩

namespace Identifier

/-- How deep an object lies, and whether its arguments count. -/
inductive Level where
  | account
  | database
  | schema
  | signature
  deriving DecidableEq

/-- The number of parts of a name at this level. -/
def Level.arity : Level → Nat
  | .account => 1
  | .database => 2
  | .schema | .signature => 3

def level : Identifier → Level
  | .account _ => .account
  | .database _ => .database
  | .schema _ => .schema
  | .signature _ => .signature

/-- The last part of the name: the object's own. -/
def name : Identifier → String
  | .account id => id.name
  | .database id => id.name
  | .schema id => id.name
  | .signature id => id.name

/-- The parts of the name, outermost first. -/
def parts : Identifier → List String
  | .account id => [id.name]
  | .database id => [id.database, id.name]
  | .schema id => [id.database, id.schema, id.name]
  | .signature id => [id.database, id.schema, id.name]

/-- The types of the arguments, where they count. -/
def arguments? : Identifier → Option (List ArgumentType)
  | .signature id => some id.arguments
  | _ => none

/-- A name is valid when it names something: its last part is not empty. -/
def isValid (id : Identifier) : Bool :=
  id.name ≠ ""

/-- Parts joined by dots. -/
def dotted (parts : List String) : String :=
  ".".intercalate (parts.map Part.write)

/-- An argument list in parentheses. -/
def argumentList (types : List ArgumentType) : String :=
  "(" ++ ", ".intercalate (types.map (·.text)) ++ ")"

/-- An identifier as it is written in a statement: the parts joined by dots, and the argument types
of a signature behind them. -/
def text (id : Identifier) : String :=
  match id.arguments? with
  | none => dotted id.parts
  | some types => dotted id.parts ++ argumentList types

end Identifier

/-! ### Containers -/

/-- An object that holds others. -/
inductive Container where
  | schema (id : DatabaseScoped)
  | database (id : AccountScoped)
  deriving DecidableEq

namespace Container

def id : Container → Identifier
  | .schema id => id
  | .database id => id

/-- A container's name behind the word for its kind. -/
def label : Container → String
  | .schema id => "schema " ++ (id : Identifier).text
  | .database id => "database " ++ (id : Identifier).text

end Container

/-- The containers that an object lies in, nearest first. -/
def Identifier.ancestors : Identifier → List Container
  | .account _ => []
  | .database id => [.database id.databaseId]
  | .schema id => [.schema id.schemaId, .database id.databaseId]
  | .signature id => [.schema id.base.schemaId, .database id.base.databaseId]

end WarehouseAdmin
