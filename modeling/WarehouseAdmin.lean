import WarehouseAdmin.Text.Escaped
import WarehouseAdmin.Text.Basic
import WarehouseAdmin.Json.Printer
import WarehouseAdmin.Json.Reader
import WarehouseAdmin.Identifier.Basic
import WarehouseAdmin.Identifier.Reader
import WarehouseAdmin.Identifier.Json
import WarehouseAdmin.Clause.Basic
import WarehouseAdmin.Clause.Layout
import WarehouseAdmin.Sql.Nesting
import WarehouseAdmin.Sql.Statement
import WarehouseAdmin.Check.Json
import WarehouseAdmin.Check.Walk
import WarehouseAdmin.Catalog.Failure
import WarehouseAdmin.Catalog.Registry
import WarehouseAdmin.Catalog.Recovery
import WarehouseAdmin.Catalog.Operation
import WarehouseAdmin.Statement.Database
import WarehouseAdmin.Statement.Drop
import WarehouseAdmin.Statement.Function
import WarehouseAdmin.Statement.Schema
import WarehouseAdmin.Statement.Show
import WarehouseAdmin.Statement.Table
import WarehouseAdmin.Statement.Warehouse
import WarehouseAdmin.Testing.Expectation
import WarehouseAdmin.Testing.Sample
import WarehouseAdmin.Session.Client
import WarehouseAdmin.Clause.Json
import WarehouseAdmin.Proofs.Identifier.RoundTrip
import WarehouseAdmin.Proofs.Sql.Noninterference
import WarehouseAdmin.Proofs.Check.Place
import WarehouseAdmin.Proofs.Check.Completeness
import WarehouseAdmin.Proofs.Catalog.Failure
import WarehouseAdmin.Proofs.Catalog.Probing
import WarehouseAdmin.Proofs.Catalog.Recovery
import WarehouseAdmin.Proofs.Operation.Interruption
import WarehouseAdmin.Proofs.Catalog.Interruption
import WarehouseAdmin.Proofs.Sql.Descent
import WarehouseAdmin.Proofs.Outcome
import WarehouseAdmin.Proofs.Catalog.Hierarchy
import WarehouseAdmin.Proofs.Catalog.Registration
import WarehouseAdmin.Proofs.Check.Verdict
import WarehouseAdmin.Proofs.Sql.Exclusion
import WarehouseAdmin.Proofs.Check.Misuse
import WarehouseAdmin.Proofs.Check.Guard
import WarehouseAdmin.Proofs.Statement.Identifiers
import WarehouseAdmin.Proofs.Identifier.Canonical
import WarehouseAdmin.Proofs.Check.Support
import WarehouseAdmin.Proofs.Statement.Coherence
import WarehouseAdmin.Proofs.Session.Sending
import WarehouseAdmin.Proofs.Operation.Timeline
import WarehouseAdmin.Proofs.Text.Spacing
import WarehouseAdmin.Proofs.Json.RoundTrip
import WarehouseAdmin.Proofs.Identifier.Origin
import WarehouseAdmin.Proofs.Statement.Acceptance
import WarehouseAdmin.Proofs.Statement.Writing
import WarehouseAdmin.Proofs.Statement.Altering
import WarehouseAdmin.Proofs.Statement.Listing
import WarehouseAdmin.Proofs.Statement.Dropping
import WarehouseAdmin.Proofs.Statement.Overload
import WarehouseAdmin.Proofs.Session.Dropping
import WarehouseAdmin.Proofs.Identifier.Level
import WarehouseAdmin.Proofs.Sql.Splicing
import WarehouseAdmin.Proofs.Sql.Ends
import WarehouseAdmin.Proofs.Sql.Literal
import WarehouseAdmin.Proofs.Text.Lower
import WarehouseAdmin.Proofs.Catalog.Message
import WarehouseAdmin.Proofs.Testing.Matching
