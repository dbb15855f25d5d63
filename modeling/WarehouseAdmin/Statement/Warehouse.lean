import WarehouseAdmin.Clause.Layout

/-!
# Statements about warehouses

## Main definitions

* `WarehouseType`, `WarehouseSize` — what kinds of warehouses there are.
* `CreateWarehouse` — `CREATE WAREHOUSE`.
-/

namespace WarehouseAdmin

inductive WarehouseType where
  | standard
  | snowparkOptimized
  deriving DecidableEq

def WarehouseType.keyword : WarehouseType → String
  | .standard => "STANDARD"
  | .snowparkOptimized => "SNOWPARK-OPTIMIZED"

inductive WarehouseSize where
  | xSmall
  | small
  | medium
  | large
  | xLarge
  | xxLarge
  | xxxLarge
  | x4Large
  | x5Large
  | x6Large
  deriving DecidableEq

def WarehouseSize.keyword : WarehouseSize → String
  | .xSmall => "XSMALL"
  | .small => "SMALL"
  | .medium => "MEDIUM"
  | .large => "LARGE"
  | .xLarge => "XLARGE"
  | .xxLarge => "XXLARGE"
  | .xxxLarge => "XXXLARGE"
  | .x4Large => "X4LARGE"
  | .x5Large => "X5LARGE"
  | .x6Large => "X6LARGE"

/-- A `CREATE WAREHOUSE` statement. -/
structure CreateWarehouse where
  orReplace : Option Bool
  ifNotExists : Option Bool
  name : AccountScoped
  warehouseType : Option WarehouseType
  size : Option WarehouseSize
  maxClusters : Option Nat
  minClusters : Option Nat
  /-- The seconds without work after which the warehouse is suspended. -/
  autoSuspend : Option Nat
  autoResume : Option Bool
  startsSuspended : Option Bool
  resourceMonitor : Option AccountScoped
  comment : Option String
  deriving DecidableEq

namespace CreateWarehouse

/-- The statement that says nothing but the name. -/
def ofName (name : AccountScoped) : CreateWarehouse :=
  ⟨none, none, name, none, none, none, none, none, none, none, none, none⟩

def replacing (statement : CreateWarehouse) : CreateWarehouse :=
  { statement with orReplace := some true }

def unlessExists (statement : CreateWarehouse) : CreateWarehouse :=
  { statement with ifNotExists := some true }

def withType (type : WarehouseType) (statement : CreateWarehouse) : CreateWarehouse :=
  { statement with warehouseType := some type }

def withSize (size : WarehouseSize) (statement : CreateWarehouse) : CreateWarehouse :=
  { statement with size := some size }

/-- Says how many clusters there are at least and at most. -/
def withClusters (least most : Nat) (statement : CreateWarehouse) : CreateWarehouse :=
  { statement with minClusters := some least, maxClusters := some most }

/-- Suspends the warehouse after so many seconds without work, and resumes it on demand. -/
def suspendAfter (seconds : Nat) (statement : CreateWarehouse) : CreateWarehouse :=
  { statement with autoSuspend := some seconds, autoResume := some true }

def startSuspended (isSuspended : Bool) (statement : CreateWarehouse) : CreateWarehouse :=
  { statement with startsSuspended := some isSuspended }

def withResourceMonitor (monitor : AccountScoped) (statement : CreateWarehouse) :
    CreateWarehouse :=
  { statement with resourceMonitor := some monitor }

def withComment (comment : String) (statement : CreateWarehouse) : CreateWarehouse :=
  { statement with comment := some comment }

end CreateWarehouse

instance : Described CreateWarehouse where
  layout :=
    { object := "CreateWarehouseOptions"
      fields :=
        [.fixed "CREATE",
          .toggle "or_replace" "OR REPLACE" (·.orReplace),
          .fixed "WAREHOUSE",
          .toggle "if_not_exists" "IF NOT EXISTS" (·.ifNotExists),
          .identifier "name" (·.name),
          .literal "warehouse_type" "WAREHOUSE_TYPE"
            fun statement => statement.warehouseType.map (·.keyword),
          ⟨"warehouse_size", .parameter "WAREHOUSE_SIZE",
            fun statement => .ofText? (statement.size.map (·.keyword))⟩,
          .number "max_cluster_count" "MAX_CLUSTER_COUNT" (·.maxClusters),
          .number "min_cluster_count" "MIN_CLUSTER_COUNT" (·.minClusters),
          .number "auto_suspend" "AUTO_SUSPEND" (·.autoSuspend),
          .flag "auto_resume" "AUTO_RESUME" (·.autoResume),
          .flag "initially_suspended" "INITIALLY_SUSPENDED" (·.startsSuspended),
          ⟨"resource_monitor", .namedIdentifier "RESOURCE_MONITOR",
            fun statement => .ofIdentifier? statement.resourceMonitor⟩,
          .literal "comment" "COMMENT" (·.comment)]
      rules :=
        [.identifier "name",
          .optionalIdentifier "resource_monitor",
          .conflicting ["or_replace", "if_not_exists"]] }

end WarehouseAdmin
