import DocumentSql.Calendar
import DocumentSql.Cast.Apply
import DocumentSql.Cast.Basic
import DocumentSql.Cast.Declared
import DocumentSql.Cast.TypeName
import DocumentSql.Catalog.Basic
import DocumentSql.Catalog.Memory
import DocumentSql.Connection.Adapter
import DocumentSql.Connection.Basic
import DocumentSql.Connection.DriverQuery
import DocumentSql.Connection.Open
import DocumentSql.Connection.Program
import DocumentSql.Connection.Script
import DocumentSql.Connection.ServerError
import DocumentSql.Connection.Shared
import DocumentSql.Console.Command
import DocumentSql.Console.Grammar
import DocumentSql.Console.Run
import DocumentSql.DocumentType
import DocumentSql.Entity
import DocumentSql.Error
import DocumentSql.Executor
import DocumentSql.Filter.Basic
import DocumentSql.Filter.Compile
import DocumentSql.Filter.Mapping
import DocumentSql.Filter.Parse
import DocumentSql.Filter.Token
import DocumentSql.Function
import DocumentSql.Index.Program
import DocumentSql.Index.Spec
import DocumentSql.Index.Sync
import DocumentSql.Json.Read
import DocumentSql.Json.Write
import DocumentSql.Key.Basic
import DocumentSql.Key.Navigation
import DocumentSql.Key.Parse
import DocumentSql.Key.Resolve
import DocumentSql.Log
import DocumentSql.Number.Binary
import DocumentSql.Number.Decimal
import DocumentSql.Number.Numeral
import DocumentSql.Number.Shortest
import DocumentSql.Procedures
import DocumentSql.Relation
import DocumentSql.Row
import DocumentSql.Search.Basic
import DocumentSql.Search.Item
import DocumentSql.Search.Query
import DocumentSql.Search.Traits
import DocumentSql.Search.TypeNeed
import DocumentSql.Settings.Basic
import DocumentSql.Settings.Field
import DocumentSql.Settings.File
import DocumentSql.Settings.Override
import DocumentSql.Settings.Program
import DocumentSql.Sql.Composition
import DocumentSql.Sql.Placeholder
import DocumentSql.Sql.Predicate
import DocumentSql.Statement
import DocumentSql.Text.Blank
import DocumentSql.Text.Case
import DocumentSql.Text.Cut
import DocumentSql.Text.Digit
import DocumentSql.Text.Encoding
import DocumentSql.Text.Identifier
import DocumentSql.Text.Printable
import DocumentSql.Text.Quoted
import DocumentSql.Text.Ranges
import DocumentSql.Text.Word
import DocumentSql.Value.Basic
import DocumentSql.Value.Collection
import DocumentSql.Value.Difference
import DocumentSql.Value.Element
import DocumentSql.Value.Equal
import DocumentSql.Value.Identical
import DocumentSql.Value.Integer
import DocumentSql.Value.Literal
import DocumentSql.Value.Readable
import DocumentSql.Value.Written
import DocumentSql.Main
import DocumentSql.Proofs.Sql.Fragment
import DocumentSql.Proofs.Key.Plain
import DocumentSql.Proofs.Cast.Plain
import DocumentSql.Proofs.Filter.Fragments
import DocumentSql.Proofs.Search.Parameters
import DocumentSql.Proofs.Sql.Divergence
import DocumentSql.Proofs.Filter.Schema
import DocumentSql.Proofs.Search.Count
import DocumentSql.Proofs.Value.Difference
import DocumentSql.Proofs.Row.Lookup
import DocumentSql.Proofs.Row.Change
import DocumentSql.Proofs.Row.Spelling
import DocumentSql.Proofs.Json.Value
import DocumentSql.Proofs.Catalog.Memory
import DocumentSql.Proofs.Index.Batch
import DocumentSql.Proofs.Filter.Meaning
import DocumentSql.Proofs.Search.Meaning
import DocumentSql.Proofs.Row.Update
import DocumentSql.Proofs.Connection.Client
import DocumentSql.Proofs.Connection.Recorded
import DocumentSql.Proofs.Connection.Bracketing
import DocumentSql.Proofs.Connection.Reuse
import DocumentSql.Proofs.Connection.DriverQuery
import DocumentSql.Proofs.Cast.Navigation
import DocumentSql.Proofs.Search.Expression
import DocumentSql.Proofs.Row.Address
import DocumentSql.Proofs.Settings.Restore
import DocumentSql.Proofs.Filter.Match
import DocumentSql.Proofs.Filter.Found
import DocumentSql.Proofs.Connection.Mismatch
import DocumentSql.Proofs.Filter.Table
import DocumentSql.Proofs.Search.Item
import DocumentSql.Proofs.Search.Grouping
import DocumentSql.Proofs.Search.Schema
import DocumentSql.Proofs.Search.Agreement
import DocumentSql.Proofs.Search.TypeList
import DocumentSql.Proofs.Row.Identity
import DocumentSql.Proofs.Search.Lookup
import DocumentSql.Proofs.Row.Insert
import DocumentSql.Proofs.Row.NanFree
import DocumentSql.Proofs.Row.Touched
import DocumentSql.Proofs.Json.Grammar
import DocumentSql.Proofs.Sql.Binding
import DocumentSql.Proofs.Filter.Encoding
import DocumentSql.Proofs.Search.Traits
import DocumentSql.Proofs.Search.Prepared
import DocumentSql.Proofs.Sql.ArrayLiteral
import DocumentSql.Proofs.Key.Place
import DocumentSql.Proofs.Key.Grammar
import DocumentSql.Proofs.Key.Relation
import DocumentSql.Proofs.Cast.Operand
import DocumentSql.Proofs.Cast.Stable
import DocumentSql.Proofs.Index.Report
import DocumentSql.Proofs.Settings.Listing
import DocumentSql.Proofs.Search.Outputs
import DocumentSql.Proofs.Value.Named
import DocumentSql.Proofs.Function.Registry
import DocumentSql.Proofs.Filter.Calls
import DocumentSql.Proofs.Sql.Renumbering
import DocumentSql.Proofs.Sql.Associativity
