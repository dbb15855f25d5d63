import WarehouseAdmin.Clause.Basic
import WarehouseAdmin.Sql.Nesting
import WarehouseAdmin.Text.Basic

/-!
# Statements

The text of a statement is its clauses written depth first, every field in its place as its
directive says.  Fields that are not set leave no trace.

## Main definitions

* `Quoting.quote` — a text as a literal.
* `Link.attach` — a value behind its name.
* `joinTokens`, `joinElements` — pieces with spaces between them, and the elements of a list.
* `Clause.sqlAt`, `Entry.token`, `Value.sqlAt` — a clause, a field and a value at a place.
* `Clause.sql` — a whole statement under a limit on its nesting.
-/

namespace WarehouseAdmin

/-! ## Tokens

A statement's text is put together from pieces, and an empty piece leaves no trace: it is dropped
before the others are joined, so that no doubled blanks arise.
-/

/-- A text as a literal. -/
def Quoting.quote : Quoting → String → String
  | .single, s => Text.enclose '\'' s
  | .double, s => Text.enclose '"' s
  | .dollar, s => "$$" ++ s ++ "$$"
  | .bare, s => s

/-- A value behind its name; without a name the value stands alone. -/
def Link.attach (link : Link) (name value : String) : String :=
  if name = "" then value
  else match link with
    | .equals => name ++ " = " ++ value
    | .space => name ++ " " ++ value

/-- The pieces that are not empty. -/
def visible (pieces : List String) : List String :=
  pieces.filter (· ≠ "")

/-- Pieces with spaces between them. -/
def joinTokens (pieces : List String) : String :=
  " ".intercalate (visible pieces)

/-- A text in parentheses. -/
def inParentheses (s : String) : String :=
  "(" ++ s ++ ")"

/-- The elements of a list. -/
def joinElements (separator : Separator) (parenthesized : Bool) (elements : List String) : String :=
  let joined := separator.text.intercalate (visible elements)
  if parenthesized then inParentheses joined else joined

/-! ## Statements

The functions follow the tree, so a statement is written for every tree that is not too deep and
holds in every field what its directive can write.
-/

mutual

/-- A clause: its fields in order. -/
def Clause.sqlAt (place : Nesting) : Clause → Except SqlError String
  | ⟨object, entries, _⟩ =>
    (place.enter object).bind fun inside =>
      (Entry.tokens inside entries).map joinTokens
termination_by structural clause => clause

/-- The tokens of fields, in order. -/
def Entry.tokens (place : Nesting) : List Entry → Except SqlError (List String)
  | [] => .ok []
  | entry :: entries =>
    (entry.token place).bind fun token => (Entry.tokens place entries).map (token :: ·)
termination_by structural entries => entries

/-- The token of a field, which is empty when the field leaves no trace. -/
def Entry.token (place : Nesting) : Entry → Except SqlError String
  | ⟨_, .fixed text, _⟩ => .ok text
  | ⟨_, _, .absent⟩ => .ok ""
  | ⟨_, .keyword text, .flag b⟩ => .ok (if b then text else "")
  | ⟨_, .keyword text, .embedded clause⟩ =>
    (clause.sqlAt place).map fun inner => if inner = "" then "" else joinTokens [text, inner]
  | ⟨_, .keyword _, .list []⟩ => .ok ""
  | ⟨_, .keyword text, value⟩ =>
    (value.sqlAt place .bare false).map fun written => joinTokens [text, written]
  | ⟨_, .named name _ link, .embedded clause⟩ =>
    (clause.sqlAt place).map fun inner =>
      if inner = "" then "" else link.attach name (inParentheses inner)
  | ⟨_, .named _ _ _, .list []⟩ => .ok ""
  | ⟨_, .named name quoting link, value⟩ =>
    (value.sqlAt place quoting true).map fun written => link.attach name written
  | ⟨_, .reference name link, .identifier id⟩ => .ok (link.attach name id.text)
  | ⟨_, .sequence _ _, .list []⟩ => .ok ""
  | ⟨_, .sequence separator parenthesized, .list items⟩ =>
    (Value.elements place .bare items).map (joinElements separator parenthesized)
  | ⟨field, directive, value⟩ => .error (place.misfit field directive.kind value.kind)
termination_by structural entry => entry

/-- A value by itself.  Texts in it are quoted, and a clause or a list is put in parentheses when
`parenthesized` says so. -/
def Value.sqlAt (place : Nesting) (quoting : Quoting) (parenthesized : Bool) :
    Value → Except SqlError String
  | .absent => .ok ""
  | .flag b => .ok (if b then "TRUE" else "FALSE")
  | .text s => .ok (quoting.quote s)
  | .number n => .ok (toString n)
  | .identifier id => .ok id.text
  | .nested clause | .embedded clause =>
    (clause.sqlAt place).map fun inner => if parenthesized then inParentheses inner else inner
  | .list items => (Value.elements place quoting items).map (joinElements .comma parenthesized)
termination_by structural value => value

/-- The elements of a list, in order.  Clauses and lists in it are not put in parentheses. -/
def Value.elements (place : Nesting) (quoting : Quoting) :
    List Value → Except SqlError (List String)
  | [] => .ok []
  | item :: items =>
    (item.sqlAt place quoting false).bind fun written =>
      (Value.elements place quoting items).map (written :: ·)
termination_by structural items => items

end

/-- The text of a statement whose clauses nest at most `limit` deep. -/
def Clause.sql (limit : Nat) (clause : Clause) : Except SqlError String :=
  clause.sqlAt (.outermost limit)

/-- The text of a statement that may be missing. -/
def Clause.sql? (limit : Nat) : Option Clause → Except SqlError String
  | none => .error .noClause
  | some clause => clause.sql limit

end WarehouseAdmin
