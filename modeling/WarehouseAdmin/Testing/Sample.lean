import WarehouseAdmin.Catalog.Registry

/-!
# Sample objects and failures

One database with one schema, a table and a function in it, and the failures that a backend reports
about such objects, for trials of statements and catalogs.
-/

namespace WarehouseAdmin.Sample

def database : AccountScoped := ⟨"DB1"⟩

def schema : DatabaseScoped := ⟨"DB1", "SCHEMA1"⟩

def table : SchemaScoped := ⟨"DB1", "SCHEMA1", "TABLE1"⟩

/-- A function of one number. -/
def function : Signature :=
  SchemaScoped.withArguments ⟨"DB1", "SCHEMA1", "ADD_ONE"⟩ ["NUMBER"]

/-- The sample database with the sample schema. -/
def hierarchy : Registry :=
  Registry.empty.addSchema (.ofName schema)

/-- What a backend reports of a missing object, or of one that may not be seen. -/
def notAuthorized (object : String) : Failure :=
  .ofBackend "002003"
    ("SQL compilation error:\nObject '" ++ object ++ "' does not exist or not authorized.")

/-- What a backend reports instead for some lookups. -/
def notPerformed : Failure :=
  .ofBackend "002043"
    "SQL compilation error:\nObject does not exist, or operation cannot be performed."

/-- What a backend reports of a misspelled statement. -/
def misspelled : Failure :=
  .ofBackend "001003"
    "SQL compilation error:\nsyntax error line 1 at position 0 unexpected 'DORP'."

end WarehouseAdmin.Sample
