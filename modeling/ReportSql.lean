import ReportSql.BindValue
import ReportSql.Calendar.Date
import ReportSql.Calendar.Reading
import ReportSql.Catalog.Basic
import ReportSql.Catalog.Files
import ReportSql.Catalog.Reading
import ReportSql.Catalog.Store
import ReportSql.Compile
import ReportSql.Decimal.Double
import ReportSql.Decimal.Numeral
import ReportSql.Decimal.Shortest
import ReportSql.Dict
import ReportSql.Event
import ReportSql.Filter.Condition
import ReportSql.Filter.Operator
import ReportSql.Filter.Reading
import ReportSql.Filter.Tree
import ReportSql.Json.Document
import ReportSql.Json.Fault
import ReportSql.Json.Reading
import ReportSql.Json.Token
import ReportSql.Json.Value
import ReportSql.Plan.Aggregates
import ReportSql.Plan.Partitions
import ReportSql.Plan.Predicates
import ReportSql.Plan.Pushdown
import ReportSql.Plan.Routing
import ReportSql.Plan.Settings
import ReportSql.Plan.Sources
import ReportSql.Plan.Traced
import ReportSql.Proofs.Blind.Compile
import ReportSql.Proofs.Blind.Drafts
import ReportSql.Proofs.Blind.Requests
import ReportSql.Proofs.Blind.Scopes
import ReportSql.Proofs.Blind.Steps
import ReportSql.Proofs.Count.Compile
import ReportSql.Proofs.Count.Drafts
import ReportSql.Proofs.Count.Rows
import ReportSql.Proofs.Failure.Checks
import ReportSql.Proofs.Failure.Compile
import ReportSql.Proofs.Failure.Reading
import ReportSql.Proofs.Join.Order
import ReportSql.Proofs.Join.Partition
import ReportSql.Proofs.Join.Plan
import ReportSql.Proofs.Join.Pushdown
import ReportSql.Proofs.Join.Restriction
import ReportSql.Proofs.Join.Rows
import ReportSql.Proofs.Load.Isolation
import ReportSql.Proofs.Query.Compiled
import ReportSql.Proofs.Query.Conditions
import ReportSql.Proofs.Query.Drawn
import ReportSql.Proofs.Query.Joined
import ReportSql.Proofs.Query.Loads
import ReportSql.Proofs.Query.Numbering
import ReportSql.Proofs.Query.Parts
import ReportSql.Proofs.Recased.Compile
import ReportSql.Proofs.Recased.Drafts
import ReportSql.Proofs.Recased.Names
import ReportSql.Proofs.Recased.Requests
import ReportSql.Proofs.Recased.Scopes
import ReportSql.Proofs.Related
import ReportSql.Proofs.RoundTrip.Conditions
import ReportSql.Proofs.RoundTrip.Numbers
import ReportSql.Proofs.RoundTrip.Requests
import ReportSql.Proofs.RoundTrip.Values
import ReportSql.Proofs.Routing.Built
import ReportSql.Proofs.Routing.Exact
import ReportSql.Proofs.Routing.Flags
import ReportSql.Proofs.Routing.Placement
import ReportSql.Proofs.Scoping.Names
import ReportSql.Proofs.Scoping.Query
import ReportSql.Proofs.Store.Current
import ReportSql.Proofs.Store.Files
import ReportSql.Proofs.Store.Run
import ReportSql.Proofs.Token.Balance
import ReportSql.Proofs.Token.Lexer
import ReportSql.Proofs.Token.Numbers
import ReportSql.Proofs.Token.Placeholders
import ReportSql.Proofs.Token.Precedence
import ReportSql.Proofs.Token.Predicate
import ReportSql.Proofs.Token.Reading
import ReportSql.Proofs.Token.Statement
import ReportSql.Proofs.Token.Vocabulary
import ReportSql.Proofs.Tree.Homes
import ReportSql.Proofs.Tree.Match
import ReportSql.Proofs.Tree.Part
import ReportSql.Proofs.Tree.Relate
import ReportSql.Proofs.Tree.Split
import ReportSql.Proofs.Tree.Value
import ReportSql.Request.Basic
import ReportSql.Request.Reading
import ReportSql.Scalar
import ReportSql.Service
import ReportSql.Sql.Identifier
import ReportSql.Sql.Placeholder
import ReportSql.Sql.Predicate
import ReportSql.Sql.Statement
import ReportSql.Text.Blank
import ReportSql.Text.Case
import ReportSql.Text.CaseTable
import ReportSql.Text.Search
import ReportSql.Text.Segment
import ReportSql.Text.Visible
import ReportSql.Proofs.Routing.Readback
import ReportSql.Proofs.Pruned.Plan
import ReportSql.Proofs.Pruned.Compile
import ReportSql.Proofs.Aggregate.Names
import ReportSql.Proofs.Aggregate.Lookup
import ReportSql.Proofs.Sorting.Grouped
import ReportSql.Proofs.Sorting.Kept
import ReportSql.Proofs.Compare.Moments
import ReportSql.Proofs.Compare.Days
import ReportSql.Proofs.Compare.UpperCase
import ReportSql.Proofs.Compare.SingleItem
import ReportSql.Proofs.Compare.Patterns
import ReportSql.Proofs.Compare.Searches
import ReportSql.Proofs.Tree.Position
import ReportSql.Proofs.Routing.Asked
import ReportSql.Proofs.Routing.Missing
import ReportSql.Proofs.Load.Warnings
import ReportSql.Proofs.Load.Heeded
import ReportSql.Proofs.Metadata.Lookup
import ReportSql.Proofs.Metadata.Foreign
import ReportSql.Proofs.Catalog.Keys
import ReportSql.Proofs.Catalog.Updates
import ReportSql.Proofs.Text.Bytes
import ReportSql.Proofs.Text.Segments
import ReportSql.Proofs.Catalog.Fallback
import ReportSql.Proofs.Filter.Lists
import ReportSql.Proofs.Delivered.Documents
import ReportSql.Proofs.Delivered.Values
import ReportSql.Proofs.Delivered.Holes
import ReportSql.Proofs.Delivered.Places
import ReportSql.Proofs.Delivered.Nulls
import ReportSql.Proofs.Query.Calls
import ReportSql.Proofs.Text.Ends
import ReportSql.Proofs.Token.QuotedNames
import ReportSql.Proofs.Numeral.Digits
import ReportSql.Proofs.Numeral.Spelling
import ReportSql.Proofs.Numeral.Noise
import ReportSql.Proofs.Calendar.Parts
import ReportSql.Proofs.Calendar.ReadBack
