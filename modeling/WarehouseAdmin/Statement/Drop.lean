import WarehouseAdmin.Clause.Layout

/-!
# Statements that drop objects

Each statement names one object, its target.  Objects that hold data can have others that depend on
them, and a drop can say what happens to those.  Nothing depends on objects that only compute, so a
drop of one has nothing more to say.

## Main definitions

* `DataObject`, `DropData` — drops of databases, schemas and tables.
* `ComputeObject`, `DropCompute` — drops of warehouses and functions.
* `Drops` — statements with a target.
-/

namespace WarehouseAdmin

/-- Statements that drop an object. -/
class Drops (α : Type) extends Described α where
  /-- The object that a statement drops. -/
  target : α → Identifier

/-- The fields that every drop has. -/
def Layout.Field.drop {α : Type} (keyword : String) (ifExists : α → Option Bool)
    (name : α → Identifier) : List (Layout.Field α) :=
  [.fixed ("DROP " ++ keyword), .toggle "if_exists" "IF EXISTS" ifExists, .identifier "name" name]

/-! ## Objects that hold data -/

/-- The kinds of objects that hold data. -/
inductive DataObject where
  | database
  | schema
  | table
  deriving DecidableEq

namespace DataObject

/-- How the objects of a kind are identified. -/
abbrev Id : DataObject → Type
  | .database => AccountScoped
  | .schema => DatabaseScoped
  | .table => SchemaScoped

instance : (kind : DataObject) → DecidableEq kind.Id
  | .database => inferInstanceAs (DecidableEq AccountScoped)
  | .schema => inferInstanceAs (DecidableEq DatabaseScoped)
  | .table => inferInstanceAs (DecidableEq SchemaScoped)

def identifier : (kind : DataObject) → kind.Id → Identifier
  | .database => .account
  | .schema => .database
  | .table => .schema

def keyword : DataObject → String
  | .database => "DATABASE"
  | .schema => "SCHEMA"
  | .table => "TABLE"

/-- What the clauses of drops of a kind are called. -/
def dropName : DataObject → String
  | .database => "DropDatabaseOptions"
  | .schema => "DropSchemaOptions"
  | .table => "DropTableOptions"

end DataObject

/-- A statement that drops an object with data. -/
structure DropData (kind : DataObject) where
  ifExists : Option Bool
  name : kind.Id
  /-- What depends on the object is dropped too. -/
  cascade : Option Bool
  /-- The object is not dropped while something depends on it. -/
  restrict : Option Bool
  deriving DecidableEq

namespace DropData

variable {kind : DataObject}

/-- The statement that says nothing but the name. -/
def ofName (name : kind.Id) : DropData kind :=
  ⟨none, name, none, none⟩

def onlyIfExists (statement : DropData kind) : DropData kind :=
  { statement with ifExists := some true }

def cascading (statement : DropData kind) : DropData kind :=
  { statement with cascade := some true }

def restricted (statement : DropData kind) : DropData kind :=
  { statement with restrict := some true }

end DropData

instance (kind : DataObject) : Drops (DropData kind) where
  layout :=
    { object := kind.dropName
      fields :=
        Layout.Field.drop kind.keyword (·.ifExists)
            (fun statement => kind.identifier statement.name) ++
          [.toggle "cascade" "CASCADE" (·.cascade), .toggle "restrict" "RESTRICT" (·.restrict)]
      rules := [.identifier "name", .conflicting ["cascade", "restrict"]] }
  target statement := kind.identifier statement.name

/-! ## Objects that compute -/

/-- The kinds of objects that only compute. -/
inductive ComputeObject where
  | warehouse
  | function
  deriving DecidableEq

namespace ComputeObject

/-- How the objects of a kind are identified. -/
abbrev Id : ComputeObject → Type
  | .warehouse => AccountScoped
  | .function => Signature

instance : (kind : ComputeObject) → DecidableEq kind.Id
  | .warehouse => inferInstanceAs (DecidableEq AccountScoped)
  | .function => inferInstanceAs (DecidableEq Signature)

def identifier : (kind : ComputeObject) → kind.Id → Identifier
  | .warehouse => .account
  | .function => .signature

def keyword : ComputeObject → String
  | .warehouse => "WAREHOUSE"
  | .function => "FUNCTION"

/-- What the clauses of drops of a kind are called. -/
def dropName : ComputeObject → String
  | .warehouse => "DropWarehouseOptions"
  | .function => "DropFunctionOptions"

end ComputeObject

/-- A statement that drops an object that computes. -/
structure DropCompute (kind : ComputeObject) where
  ifExists : Option Bool
  name : kind.Id
  deriving DecidableEq

namespace DropCompute

variable {kind : ComputeObject}

/-- The statement that says nothing but the name. -/
def ofName (name : kind.Id) : DropCompute kind :=
  ⟨none, name⟩

def onlyIfExists (statement : DropCompute kind) : DropCompute kind :=
  { statement with ifExists := some true }

end DropCompute

instance (kind : ComputeObject) : Drops (DropCompute kind) where
  layout :=
    { object := kind.dropName
      fields :=
        Layout.Field.drop kind.keyword (·.ifExists) fun statement => kind.identifier statement.name
      rules := [.identifier "name"] }
  target statement := kind.identifier statement.name

end WarehouseAdmin
