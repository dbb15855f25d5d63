/-!
# JSON documents

Settings and serialized names arrive as JSON.  A document keeps what its text says and decides
nothing early: members stay in written order, repeated ones included, and a number stays the literal
it was written as, because whether `5.0` or `-0` counts as a whole number is for its reader to say.

## Main definitions

* `Json` — a document.
* `Json.Text` — what a string literal spells.
* `Json.member?` — the member that counts under a name.
* `Json.text?`, `Json.bool?`, `Json.nat?`, `Json.items?` — a document read as one kind of value.
* `Json.choice?` — a document read as one of some choices.
* `Json.record?` — a document read as a record of named fields.
* `Json.render` — a document as text.
-/

namespace WarehouseAdmin

/-! ## Documents -/

/-- What a string literal spells.  A literal whose escapes name an unpaired surrogate is well formed
but spells no text. -/
abbrev Json.Text := Option String

/-- A JSON document. -/
inductive Json where
  | null
  | bool (b : Bool)
  /-- A number, as the literal it was written as. -/
  | number (literal : String)
  | string (text : Json.Text)
  | array (items : List Json)
  /-- An object with its members in written order. -/
  | object (members : List (Json.Text × Json))

namespace Json

instance : Inhabited Json := ⟨.null⟩

/-- The string literal that spells `s`. -/
def ofString (s : String) : Json :=
  .string (some s)

/-- A text that may be unset, which `null` stands for. -/
def ofString? : Option String → Json
  | none => .null
  | some s => .ofString s

def ofInt (n : Int) : Json :=
  .number (toString n)

/-- An object of distinctly named members. -/
def ofMembers (members : List (String × Json)) : Json :=
  .object (members.map fun (name, value) => (some name, value))

/-- An object with one member, whose name tells the kind of what it holds. -/
def tagged (tag : String) (content : Json) : Json :=
  ofMembers [(tag, content)]

def ofTexts (texts : List String) : Json :=
  .array (texts.map ofString)

def members? : Json → Option (List (Text × Json))
  | .object members => some members
  | _ => none

/-- The value that counts under `name`: of repeated members the last. -/
def member? (name : String) (document : Json) : Option Json :=
  document.members?.bind fun members =>
    (members.reverse.find? (·.1 == some name)).map (·.2)

def text? : Json → Option String
  | .string text => text
  | _ => none

def bool? : Json → Option Bool
  | .bool b => some b
  | _ => none

def items? : Json → Option (List Json)
  | .array items => some items
  | _ => none

/-- A whole number written with digits alone: no sign, no fraction and no exponent. -/
def nat? : Json → Option Nat
  | .number literal =>
    let digits := literal.toList
    if digits.isEmpty || !digits.all Char.isDigit then none
    else some (digits.foldl (fun n d => 10 * n + (d.toNat - '0'.toNat)) 0)
  | _ => none

/-- A whole number written with digits alone behind an optional minus sign. -/
def int? : Json → Option Int
  | .number literal =>
    match literal.toList with
    | '-' :: digits => (nat? (.number (String.ofList digits))).map fun n => -(n : Int)
    | digits => (nat? (.number (String.ofList digits))).map fun n => (n : Int)
  | _ => none

/-- A text that may be unset: `null` is an unset one. -/
def optionalText? : Json → Option (Option String)
  | .null => some none
  | document => document.text?.map some

/-- A list of texts. -/
def texts? (document : Json) : Option (List String) :=
  document.items?.bind fun items => items.mapM text?

/-- The one of some choices whose tag a document is. -/
def choice? {α : Type} (tag : α → String) (choices : List α) (document : Json) : Option α :=
  document.text?.bind fun name => choices.find? (tag · = name)

/-- A record with the given fields, as the value of each in order.  A record is written as an
object, where a field may be missing, or as an array of exactly its fields. -/
def record? (fields : List String) : Json → Option (List (Option Json))
  | .object members => some (fields.map fun field => (Json.object members).member? field)
  | .array items => if items.length = fields.length then some (items.map some) else none
  | _ => none

end Json

end WarehouseAdmin

namespace WarehouseAdmin.Json

/-! ## Writing

A document is written on one line without blanks.  In a string literal the quote, the backslash and
the control characters are escaped, and every other character stands for itself.
-/

/-- A sixteen-bit unit as four hexadecimal digits. -/
def hexUnit (n : Nat) : List Char :=
  let digits := Nat.toDigits 16 n
  List.replicate (4 - digits.length) '0' ++ digits

/-- How a character is written in a string literal. -/
def literalChar (c : Char) : List Char :=
  if c = '"' || c = '\\' then ['\\', c]
  else if c.toNat < 0x20 then '\\' :: 'u' :: hexUnit c.toNat
  else [c]

/-- A string literal.  Where there is no text an unpaired surrogate is written. -/
def literal : Text → String
  | none => String.ofList ('"' :: '\\' :: 'u' :: hexUnit 0xD800 ++ ['"'])
  | some s => String.ofList ('"' :: s.toList.flatMap literalChar ++ ['"'])

mutual

/-- A document as text. -/
def render : Json → String
  | .null => "null"
  | .bool b => if b then "true" else "false"
  | .number literal => literal
  | .string text => literal text
  | .array items => "[" ++ ",".intercalate (renderItems items) ++ "]"
  | .object members => "\x7b" ++ ",".intercalate (renderMembers members) ++ "\x7d"

def renderItems : List Json → List String
  | [] => []
  | item :: items => item.render :: renderItems items

def renderMembers : List (Text × Json) → List String
  | [] => []
  | (name, value) :: members => (literal name ++ ":" ++ value.render) :: renderMembers members

end

end WarehouseAdmin.Json
