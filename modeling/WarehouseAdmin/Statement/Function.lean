import WarehouseAdmin.Clause.Layout

/-!
# Statements about functions

Functions may share a name, so a function is identified by its name and the types of its arguments.

## Main definitions

* `Parameter` — an argument that a new function takes.
* `Language` — what a function can be written in.
* `CreateFunction`, `CreateFunction.signature` — `CREATE FUNCTION`, and what it creates.
-/

namespace WarehouseAdmin

/-- An argument that a new function takes. -/
structure Parameter where
  name : String
  dataType : String
  /-- The expression that gives a missing argument. -/
  default : Option String
  deriving DecidableEq

namespace Parameter

def ofName (name dataType : String) : Parameter :=
  ⟨name, dataType, none⟩

def withDefault (expression : String) (parameter : Parameter) : Parameter :=
  { parameter with default := some expression }

end Parameter

instance : Described Parameter where
  layout :=
    { object := "FunctionArgument"
      fields :=
        [.raw "name" (·.name),
          .raw "data_type" (·.dataType),
          .expression "default" "DEFAULT" (·.default)]
      rules := [] }

/-- What a function can be written in. -/
inductive Language where
  | sql
  | python
  | javaScript
  | java
  | scala
  deriving DecidableEq

def Language.keyword : Language → String
  | .sql => "SQL"
  | .python => "PYTHON"
  | .javaScript => "JAVASCRIPT"
  | .java => "JAVA"
  | .scala => "SCALA"

/-- A `CREATE FUNCTION` statement. -/
structure CreateFunction where
  orReplace : Option Bool
  secure : Option Bool
  ifNotExists : Option Bool
  name : SchemaScoped
  parameters : List Parameter
  returns : String
  language : Option Language
  calledOnNullInput : Option Bool
  strict : Option Bool
  volatile : Option Bool
  immutable : Option Bool
  runtimeVersion : Option String
  handler : Option String
  comment : Option String
  body : Option String
  deriving DecidableEq

namespace CreateFunction

/-- The statement that says nothing but the name and the type of the result. -/
def ofName (name : SchemaScoped) (returns : String) : CreateFunction :=
  ⟨none, none, none, name, [], returns, none, none, none, none, none, none, none, none, none⟩

def replacing (statement : CreateFunction) : CreateFunction :=
  { statement with orReplace := some true }

def asSecure (statement : CreateFunction) : CreateFunction :=
  { statement with secure := some true }

/-- Adds an argument behind the others. -/
def withParameter (parameter : Parameter) (statement : CreateFunction) : CreateFunction :=
  { statement with parameters := statement.parameters ++ [parameter] }

def withLanguage (language : Language) (statement : CreateFunction) : CreateFunction :=
  { statement with language := some language }

def asStrict (statement : CreateFunction) : CreateFunction :=
  { statement with strict := some true }

def asImmutable (statement : CreateFunction) : CreateFunction :=
  { statement with immutable := some true }

def withRuntimeVersion (version : String) (statement : CreateFunction) : CreateFunction :=
  { statement with runtimeVersion := some version }

def withHandler (handler : String) (statement : CreateFunction) : CreateFunction :=
  { statement with handler := some handler }

def withBody (body : String) (statement : CreateFunction) : CreateFunction :=
  { statement with body := some body }

/-- The identifier of the function that the statement creates. -/
def signature (statement : CreateFunction) : Signature :=
  statement.name.withArguments (statement.parameters.map (·.dataType))

/-- The argument list; without arguments it is an empty pair of parentheses. -/
def argumentList (statement : CreateFunction) : Value :=
  if statement.parameters.isEmpty then .text "()" else .ofRecords statement.parameters

end CreateFunction

instance : Described CreateFunction where
  layout :=
    { object := "CreateFunctionOptions"
      fields :=
        [.fixed "CREATE",
          .toggle "or_replace" "OR REPLACE" (·.orReplace),
          .toggle "secure" "SECURE" (·.secure),
          .fixed "FUNCTION",
          .toggle "if_not_exists" "IF NOT EXISTS" (·.ifNotExists),
          .identifier "name" (·.name),
          ⟨"arguments", .parameter "", CreateFunction.argumentList⟩,
          ⟨"returns", .keyword "RETURNS", fun statement => .text statement.returns⟩,
          ⟨"language", .keyword "LANGUAGE",
            fun statement => .ofText? (statement.language.map (·.keyword))⟩,
          .toggle "called_on_null_input" "CALLED ON NULL INPUT" (·.calledOnNullInput),
          .toggle "strict" "STRICT" (·.strict),
          .toggle "volatile" "VOLATILE" (·.volatile),
          .toggle "immutable" "IMMUTABLE" (·.immutable),
          .literal "runtime_version" "RUNTIME_VERSION" (·.runtimeVersion),
          .literal "handler" "HANDLER" (·.handler),
          .literal "comment" "COMMENT" (·.comment),
          ⟨"body", ((Directive.parameter "AS").quoted .dollar).withoutEquals,
            fun statement => .ofText? statement.body⟩]
      rules :=
        [.identifier "name",
          .conflicting ["or_replace", "if_not_exists"],
          .conflicting ["called_on_null_input", "strict"],
          .conflicting ["volatile", "immutable"],
          .atLeastOneOf ["body", "handler"]] }

end WarehouseAdmin
