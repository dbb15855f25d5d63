import WarehouseAdmin.Clause.Layout

/-!
# Statements about tables

## Main definitions

* `Column` — a column of a new table.
* `CreateTable` — `CREATE TABLE`.
-/

namespace WarehouseAdmin

/-- A column of a new table. -/
structure Column where
  name : String
  dataType : String
  collation : Option String
  /-- The expression that gives a missing value. -/
  default : Option String
  notNull : Option Bool
  maskingPolicy : Option SchemaScoped
  comment : Option String
  deriving DecidableEq

namespace Column

/-- The column of which nothing is said but its name and type. -/
def ofName (name dataType : String) : Column :=
  ⟨name, dataType, none, none, none, none, none⟩

def required (column : Column) : Column :=
  { column with notNull := some true }

def withDefault (expression : String) (column : Column) : Column :=
  { column with default := some expression }

def withCollation (collation : String) (column : Column) : Column :=
  { column with collation := some collation }

def withMaskingPolicy (policy : SchemaScoped) (column : Column) : Column :=
  { column with maskingPolicy := some policy }

def withComment (comment : String) (column : Column) : Column :=
  { column with comment := some comment }

end Column

instance : Described Column where
  layout :=
    { object := "ColumnDefinition"
      fields :=
        [⟨"name", (Directive.parameter "").quoted .double, fun column => .text column.name⟩,
          .raw "data_type" (·.dataType),
          .operand "collate" "COLLATE" (·.collation),
          .expression "default" "DEFAULT" (·.default),
          .toggle "not_null" "NOT NULL" (·.notNull),
          .reference "masking_policy" "WITH MASKING POLICY" (·.maskingPolicy),
          .operand "comment" "COMMENT" (·.comment)]
      rules := [.optionalIdentifier "masking_policy"] }

/-- A `CREATE TABLE` statement. -/
structure CreateTable where
  orReplace : Option Bool
  transient : Option Bool
  ifNotExists : Option Bool
  name : SchemaScoped
  columns : List Column
  /-- The expressions by which rows are clustered. -/
  clusterKeys : List String
  dataRetention : Option Nat
  changeTracking : Option Bool
  grantsCopied : Option Bool
  comment : Option String
  tags : List TagValue
  deriving DecidableEq

namespace CreateTable

/-- The statement that says nothing but the name and the columns. -/
def ofColumns (name : SchemaScoped) (columns : List Column) : CreateTable :=
  ⟨none, none, none, name, columns, [], none, none, none, none, []⟩

def replacing (statement : CreateTable) : CreateTable :=
  { statement with orReplace := some true }

def unlessExists (statement : CreateTable) : CreateTable :=
  { statement with ifNotExists := some true }

def clusterBy (expressions : List String) (statement : CreateTable) : CreateTable :=
  { statement with clusterKeys := expressions }

def withChangeTracking (isOn : Bool) (statement : CreateTable) : CreateTable :=
  { statement with changeTracking := some isOn }

def copyGrants (statement : CreateTable) : CreateTable :=
  { statement with grantsCopied := some true }

def withComment (comment : String) (statement : CreateTable) : CreateTable :=
  { statement with comment := some comment }

end CreateTable

instance : Described CreateTable where
  layout :=
    { object := "CreateTableOptions"
      fields :=
        [.fixed "CREATE",
          .toggle "or_replace" "OR REPLACE" (·.orReplace),
          .toggle "transient" "TRANSIENT" (·.transient),
          .fixed "TABLE",
          .toggle "if_not_exists" "IF NOT EXISTS" (·.ifNotExists),
          .identifier "name" (·.name),
          ⟨"columns", .parameter "", fun statement => .ofRecords statement.columns⟩,
          ⟨"cluster_by", (Directive.parameter "CLUSTER BY").withoutEquals,
            fun statement => .ofTexts statement.clusterKeys⟩,
          .number "data_retention_time_in_days" "DATA_RETENTION_TIME_IN_DAYS" (·.dataRetention),
          .flag "change_tracking" "CHANGE_TRACKING" (·.changeTracking),
          .toggle "copy_grants" "COPY GRANTS" (·.grantsCopied),
          .literal "comment" "COMMENT" (·.comment),
          .tags (·.tags)]
      rules :=
        [.identifier "name",
          .conflicting ["or_replace", "if_not_exists"],
          .required "columns",
          .nested "columns" [],
          .nested "tag" []] }

end WarehouseAdmin
