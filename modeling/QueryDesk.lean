import QueryDesk.Archive.Basic
import QueryDesk.Archive.Row
import QueryDesk.Column.Function
import QueryDesk.Column.Kind
import QueryDesk.Column.Selected
import QueryDesk.Connection.Config
import QueryDesk.Connection.Scope
import QueryDesk.Connector.Operation
import QueryDesk.Datasource
import QueryDesk.Desk.Basic
import QueryDesk.Desk.Call
import QueryDesk.Desk.Inspection
import QueryDesk.Dialect
import QueryDesk.Failure
import QueryDesk.Filter.Basic
import QueryDesk.Filter.Notation
import QueryDesk.Filter.Operator
import QueryDesk.Filter.Value
import QueryDesk.Form.Datasource
import QueryDesk.Form.Failure
import QueryDesk.Form.Filter
import QueryDesk.Form.Request
import QueryDesk.Form.Result
import QueryDesk.Form.Schema
import QueryDesk.Form.Script
import QueryDesk.Form.Server
import QueryDesk.Http.Query
import QueryDesk.Http.Service
import QueryDesk.Json.Basic
import QueryDesk.Json.Doc
import QueryDesk.Json.Record
import QueryDesk.Mysql.Connector
import QueryDesk.Mysql.Line
import QueryDesk.Number.BigEndian
import QueryDesk.Number.Binary64
import QueryDesk.Number.Reading
import QueryDesk.Number.Shortest
import QueryDesk.Postgres.Cell
import QueryDesk.Postgres.Connector
import QueryDesk.Postgres.Line
import QueryDesk.Postgres.Numeric
import QueryDesk.Program
import QueryDesk.Proofs.Archive.Changes
import QueryDesk.Proofs.Archive.Ledger
import QueryDesk.Proofs.Archive.Refinement
import QueryDesk.Proofs.Archive.Replacing
import QueryDesk.Proofs.Archive.Rows
import QueryDesk.Proofs.Archive.Store
import QueryDesk.Proofs.Connection.DockerHost
import QueryDesk.Proofs.Connection.Scope
import QueryDesk.Proofs.Connector.Closing
import QueryDesk.Proofs.Desk.Connections
import QueryDesk.Proofs.Desk.Course
import QueryDesk.Proofs.Desk.Noninterference
import QueryDesk.Proofs.Desk.Office
import QueryDesk.Proofs.Desk.Selection
import QueryDesk.Proofs.Desk.Storing
import QueryDesk.Proofs.Desk.Turns
import QueryDesk.Proofs.Exchanges
import QueryDesk.Proofs.Filter.Canonical
import QueryDesk.Proofs.Filter.Integers
import QueryDesk.Proofs.Filter.Lists
import QueryDesk.Proofs.Filter.Literal
import QueryDesk.Proofs.Filter.Precedence
import QueryDesk.Proofs.Filter.RoundTrip
import QueryDesk.Proofs.Filter.Typed
import QueryDesk.Proofs.Json.Reading
import QueryDesk.Proofs.Number.Decimal
import QueryDesk.Proofs.Number.Digits
import QueryDesk.Proofs.Number.Rounding
import QueryDesk.Proofs.Number.Shortest
import QueryDesk.Proofs.Postgres.Magnitude
import QueryDesk.Proofs.Postgres.Numeric
import QueryDesk.Proofs.Query.Order
import QueryDesk.Proofs.Query.Pagination
import QueryDesk.Proofs.Query.Plan
import QueryDesk.Proofs.Query.Routing
import QueryDesk.Proofs.Schema.Composition
import QueryDesk.Proofs.Schema.ForeignKeys
import QueryDesk.Proofs.Schema.Lookup
import QueryDesk.Proofs.Schema.References
import QueryDesk.Proofs.Sequence
import QueryDesk.Proofs.Session.Atomicity
import QueryDesk.Proofs.Session.Rollback
import QueryDesk.Proofs.Sql.Boundary
import QueryDesk.Proofs.Sql.Closed
import QueryDesk.Proofs.Sql.Lexeme
import QueryDesk.Proofs.Sql.Lexing
import QueryDesk.Proofs.Sql.Numeral
import QueryDesk.Proofs.Sql.Server
import QueryDesk.Proofs.Sql.Shows
import QueryDesk.Proofs.Statement.Alignment
import QueryDesk.Proofs.Statement.Binding
import QueryDesk.Proofs.Statement.Clauses
import QueryDesk.Proofs.Statement.Marks
import QueryDesk.Proofs.Statement.Names
import QueryDesk.Proofs.Statement.Operands
import QueryDesk.Proofs.Statement.Parameters
import QueryDesk.Proofs.Statement.Patterns
import QueryDesk.Proofs.Statement.Placeholders
import QueryDesk.Proofs.Statement.Refusals
import QueryDesk.Proofs.Statement.Scan
import QueryDesk.Proofs.Statement.Skeleton
import QueryDesk.Proofs.Statement.Spelling
import QueryDesk.Proofs.Statement.Star
import QueryDesk.Proofs.Text.Case
import QueryDesk.Proofs.Text.Like
import QueryDesk.Proofs.Text.Utf8
import QueryDesk.Proofs.Time.Calendar
import QueryDesk.Proofs.Time.Stamp
import QueryDesk.Proofs.Url.Name
import QueryDesk.Proofs.Url.Place
import QueryDesk.Proofs.Url.Word
import QueryDesk.Query.Page
import QueryDesk.Query.Plan
import QueryDesk.Query.Request
import QueryDesk.Query.Result
import QueryDesk.Schema.Catalog
import QueryDesk.Schema.Index
import QueryDesk.Schema.Snapshot
import QueryDesk.Scripted.Behaviour
import QueryDesk.Scripted.MysqlServer
import QueryDesk.Scripted.PostgresServer
import QueryDesk.Scripted.World
import QueryDesk.Session.Basic
import QueryDesk.Session.Policy
import QueryDesk.Settings
import QueryDesk.Sql.Fragment
import QueryDesk.Sql.Grammar
import QueryDesk.Sql.Grammar.Basic
import QueryDesk.Sql.Grammar.DataType
import QueryDesk.Sql.Grammar.Expression
import QueryDesk.Sql.Grammar.Query
import QueryDesk.Sql.Token
import QueryDesk.Statement.Basic
import QueryDesk.Statement.Condition
import QueryDesk.Statement.Expression
import QueryDesk.Statement.Mutation
import QueryDesk.Statement.Select
import QueryDesk.Store
import QueryDesk.Text.Blank
import QueryDesk.Text.Case
import QueryDesk.Text.Case.Tables
import QueryDesk.Text.Percent
import QueryDesk.Text.Pieces
import QueryDesk.Text.Shown
import QueryDesk.Text.Shown.Table
import QueryDesk.Text.Utf8
import QueryDesk.Time.Date
import QueryDesk.Time.Instant
import QueryDesk.Time.Stamp
import QueryDesk.Url.Basic
import QueryDesk.Url.Host
import QueryDesk.Url.Reading
