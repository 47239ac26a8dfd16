import SqlMapper.Compiler.Compile
import SqlMapper.Compiler.Method
import SqlMapper.Compiler.Scope
import SqlMapper.Config
import SqlMapper.Connection.Action
import SqlMapper.Connection.Basic
import SqlMapper.Connection.Shared
import SqlMapper.Engine.Database
import SqlMapper.Engine.Error
import SqlMapper.Engine.Numeric
import SqlMapper.Engine.Order
import SqlMapper.Engine.Pattern
import SqlMapper.Engine.Query
import SqlMapper.Engine.Store
import SqlMapper.Engine.Term
import SqlMapper.Error
import SqlMapper.Expr.Basic
import SqlMapper.Expr.Operator
import SqlMapper.Number.Binary
import SqlMapper.Number.Decimal
import SqlMapper.Number.Extended
import SqlMapper.Number.Power
import SqlMapper.Number.Rounded
import SqlMapper.Number.Shortest
import SqlMapper.Query.Basic
import SqlMapper.Query.Chain
import SqlMapper.Query.Compile
import SqlMapper.Random.ChaCha
import SqlMapper.Savepoint.BatchLog
import SqlMapper.Savepoint.Naming
import SqlMapper.Savepoint.Script
import SqlMapper.Savepoint.Session
import SqlMapper.Savepoint.Stack
import SqlMapper.Schema.Row
import SqlMapper.Schema.Table
import SqlMapper.Sql.Lexer
import SqlMapper.Sql.Place
import SqlMapper.Sql.Statement
import SqlMapper.Sql.StatementReader
import SqlMapper.Sql.Term
import SqlMapper.Sql.TermReader
import SqlMapper.Sql.Token
import SqlMapper.Text.Blank
import SqlMapper.Text.CombiningClass
import SqlMapper.Text.Composed
import SqlMapper.Text.Composite
import SqlMapper.Text.Digits
import SqlMapper.Text.Escaped
import SqlMapper.Text.Hex
import SqlMapper.Text.Joining
import SqlMapper.Text.Quoted
import SqlMapper.Text.Unseen
import SqlMapper.Time.Calendar
import SqlMapper.Time.DateTime
import SqlMapper.Time.Rfc3339
import SqlMapper.Toml.Basic
import SqlMapper.Toml.Document
import SqlMapper.Toml.Scalar
import SqlMapper.Toml.Text
import SqlMapper.Url
import SqlMapper.Url.FilePath
import SqlMapper.Url.Host
import SqlMapper.Url.Label
import SqlMapper.Url.LabelClass
import SqlMapper.Url.Path
import SqlMapper.Url.Percent
import SqlMapper.Url.Punycode
import SqlMapper.Uuid
import SqlMapper.Value.Coercion
import SqlMapper.Value.Kind
import SqlMapper.Value.NumberText
import SqlMapper.Value.Scalar
import SqlMapper.Proofs.Savepoint.Names
import SqlMapper.Proofs.Savepoint.Refusals
import SqlMapper.Proofs.Savepoint.Invariant
import SqlMapper.Proofs.Savepoint.Mirror
import SqlMapper.Proofs.Savepoint.Functional
import SqlMapper.Proofs.Savepoint.AllOrNothing
import SqlMapper.Proofs.Savepoint.Balanced
import SqlMapper.Proofs.Savepoint.Owner
import SqlMapper.Proofs.Text.Digits
import SqlMapper.Proofs.Time.Calendar
import SqlMapper.Proofs.Time.Rfc3339
import SqlMapper.Proofs.Value.RoundTrip
import SqlMapper.Proofs.Compiler.Compile
import SqlMapper.Proofs.Compiler.Constants
import SqlMapper.Proofs.Query.Substitution
import SqlMapper.Proofs.Query.Styles
import SqlMapper.Proofs.Sql.Lexing
import SqlMapper.Proofs.Sql.Numbers
import SqlMapper.Proofs.Sql.Reading
import SqlMapper.Proofs.Sql.Constants
import SqlMapper.Proofs.Compiler.Emitted
import SqlMapper.Proofs.Compiler.Rereading
import SqlMapper.Proofs.Compiler.Grouping
import SqlMapper.Proofs.Compiler.Emitter
import SqlMapper.Proofs.Compiler.Spans
import SqlMapper.Proofs.Compiler.Contents
import SqlMapper.Proofs.Query.Emitter
import SqlMapper.Proofs.Query.Contents
import SqlMapper.Proofs.Query.Steps
import SqlMapper.Proofs.Sql.Places
import SqlMapper.Proofs.Compiler.Filling
import SqlMapper.Proofs.Query.Filling
import SqlMapper.Proofs.Query.Tokens
import SqlMapper.Proofs.Query.Emitted
import SqlMapper.Proofs.Query.Places
import SqlMapper.Proofs.Query.OneTable
import SqlMapper.Proofs.Engine.Tables
import SqlMapper.Proofs.Engine.Outline
import SqlMapper.Proofs.Connection.Scope
import SqlMapper.Proofs.Connection.Exchange
import SqlMapper.Proofs.Connection.Insertion
import SqlMapper.Proofs.Connection.Failing
import SqlMapper.Proofs.Connection.Binding
import SqlMapper.Proofs.Connection.Sending
import SqlMapper.Proofs.Connection.Counting
import SqlMapper.Proofs.Connection.Deletion
import SqlMapper.Proofs.Connection.ReadBack
import SqlMapper.Proofs.Sql.Spelling
import SqlMapper.Proofs.Query.Sendable
import SqlMapper.Proofs.Query.Rereading
import SqlMapper.Proofs.Sql.Filling
import SqlMapper.Proofs.Query.Regrouping
import SqlMapper.Proofs.Query.Ordinals
import SqlMapper.Proofs.Connection.InlineBound
import SqlMapper.Proofs.Savepoint.Runs
import SqlMapper.Proofs.Savepoint.Depths
import SqlMapper.Proofs.Savepoint.Restoring
import SqlMapper.Proofs.Savepoint.Stranded
import SqlMapper.Proofs.Compiler.Grammar
import SqlMapper.Proofs.Compiler.NullTests
import SqlMapper.Proofs.Text.Order
import SqlMapper.Proofs.Time.Order
import SqlMapper.Proofs.Value.Order
import SqlMapper.Proofs.Engine.Comparing
import SqlMapper.Proofs.Connection.Comparing
import SqlMapper.Proofs.Schema.Validation
import SqlMapper.Proofs.Compiler.Resolution
import SqlMapper.Proofs.Query.Scopes
import SqlMapper.Proofs.Engine.Patterns
import SqlMapper.Proofs.Query.TextSearch
import SqlMapper.Proofs.Number.NaN
import SqlMapper.Proofs.Value.Nulls
import SqlMapper.Proofs.Connection.Snapshots
import SqlMapper.Proofs.Connection.NonNull
import SqlMapper.Proofs.Savepoint.Minting
import SqlMapper.Proofs.Compiler.NullText
import SqlMapper.Proofs.Connection.Paging
import SqlMapper.Proofs.Query.References
