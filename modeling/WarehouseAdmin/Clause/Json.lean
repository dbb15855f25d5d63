import WarehouseAdmin.Clause.Basic
import WarehouseAdmin.Json.Printer

/-!
# Directives and rules as JSON

What a clause declares is serialized for tools that show or compare declarations.  A directive or a
rule is an object with one member, whose name tells the kind.

## Main definitions

* `Directive.toJson`, `Directive.ofJson?` — directives.
* `Rule.toJson` — rules.
-/

namespace WarehouseAdmin

def Quoting.tag : Quoting → String
  | .single => "Single"
  | .double => "Double"
  | .dollar => "DoubleDollar"
  | .bare => "None"

def Quoting.ofJson? : Json → Option Quoting :=
  Json.choice? Quoting.tag [.single, .double, .dollar, .bare]

def Link.tag : Link → String
  | .equals => "WithEquals"
  | .space => "NoEquals"

def Link.ofJson? : Json → Option Link :=
  Json.choice? Link.tag [.equals, .space]

def Separator.tag : Separator → String
  | .comma => "Comma"
  | .space => "Space"

def Separator.ofJson? : Json → Option Separator :=
  Json.choice? Separator.tag [.comma, .space]

namespace Directive

/-- The choice of parentheses in serialized directives. -/
def wrapTag (parenthesized : Bool) : String :=
  if parenthesized then "Parentheses" else "None"

def toJson : Directive → Json
  | .fixed text => .tagged "Static" (.ofString text)
  | .keyword text => .tagged "Keyword" (.ofString text)
  | .named name quoting link =>
    .tagged "Parameter" (.ofMembers
      [("name", .ofString name), ("quoting", .ofString quoting.tag),
        ("equals", .ofString link.tag)])
  | .reference name link =>
    .tagged "Identifier" (.ofMembers [("name", .ofString name), ("equals", .ofString link.tag)])
  | .sequence separator parenthesized =>
    .tagged "List" (.ofMembers
      [("separator", .ofString separator.tag), ("wrap", .ofString (wrapTag parenthesized))])

/-- The directive that a document with exactly one member is. -/
def ofJson? : Json → Option Directive
  | .object [(some "Static", text)] => text.text?.map .fixed
  | .object [(some "Keyword", text)] => text.text?.map .keyword
  | .object [(some "Parameter", content)] =>
    match content.record? ["name", "quoting", "equals"] with
    | some [some name, some quoting, some link] => do
      return .named (← name.text?) (← Quoting.ofJson? quoting) (← Link.ofJson? link)
    | _ => none
  | .object [(some "Identifier", content)] =>
    match content.record? ["name", "equals"] with
    | some [some name, some link] => do
      return .reference (← name.text?) (← Link.ofJson? link)
    | _ => none
  | .object [(some "List", content)] =>
    match content.record? ["separator", "wrap"] with
    | some [some separator, some wrap] => do
      return .sequence (← Separator.ofJson? separator)
        (← Json.choice? wrapTag [false, true] wrap)
    | _ => none
  | _ => none

end Directive

namespace Rule

mutual

def toJson : Rule → Json
  | .required field => .tagged "Required" (.ofString field)
  | .validIdentifier field optional =>
    .tagged "ValidIdentifier" (.ofMembers
      [("field", .ofString field), ("optional", .bool optional)])
  | .exactlyOneOf fields => .tagged "ExactlyOneOf" (.ofTexts fields)
  | .atLeastOneOf fields => .tagged "AtLeastOneOf" (.ofTexts fields)
  | .conflicting fields => .tagged "ConflictingFields" (.ofTexts fields)
  | .nested field rules =>
    .tagged "Nested" (.ofMembers
      [("field", .ofString field), ("rules", .array (toJsonAll rules))])
termination_by structural rule => rule

def toJsonAll : List Rule → List Json
  | [] => []
  | rule :: rules => rule.toJson :: toJsonAll rules
termination_by structural rules => rules

end

end Rule

end WarehouseAdmin
