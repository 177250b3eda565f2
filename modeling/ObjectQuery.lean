import ObjectQuery.Access.Admission
import ObjectQuery.Access.Attributes
import ObjectQuery.Access.Auth
import ObjectQuery.Access.DepthGuard
import ObjectQuery.Access.FindOptions
import ObjectQuery.Access.Gate
import ObjectQuery.Access.Includes
import ObjectQuery.Access.Query
import ObjectQuery.Access.Visibility
import ObjectQuery.Accumulator
import ObjectQuery.Character.Age
import ObjectQuery.Character.Break
import ObjectQuery.Character.ByteSequence
import ObjectQuery.CommandLine.Invocation
import ObjectQuery.CommandLine.Options
import ObjectQuery.CommandLine.Run
import ObjectQuery.Config
import ObjectQuery.Document
import ObjectQuery.Error
import ObjectQuery.Expr
import ObjectQuery.Filter
import ObjectQuery.Instant
import ObjectQuery.Json.Basic
import ObjectQuery.Json.Parser
import ObjectQuery.Json.Printer
import ObjectQuery.Live
import ObjectQuery.Main
import ObjectQuery.Numeral.Decimal
import ObjectQuery.Numeral.Shortest
import ObjectQuery.Numeral.Unsigned
import ObjectQuery.Operator
import ObjectQuery.Path
import ObjectQuery.Pattern.Automaton
import ObjectQuery.Pattern.Basic
import ObjectQuery.Pattern.Property
import ObjectQuery.Pattern.Tree
import ObjectQuery.Proofs.Access.Admission
import ObjectQuery.Proofs.Access.Attributes
import ObjectQuery.Proofs.Access.Closure
import ObjectQuery.Proofs.Access.Coverage
import ObjectQuery.Proofs.Access.Depth
import ObjectQuery.Proofs.Access.Expansion
import ObjectQuery.Proofs.Access.Groups
import ObjectQuery.Proofs.Access.Privilege
import ObjectQuery.Proofs.Access.Target
import ObjectQuery.Proofs.Access.Visibility
import ObjectQuery.Proofs.Accumulator.Aggregates
import ObjectQuery.Proofs.Accumulator.Groups
import ObjectQuery.Proofs.Columns.Admitted
import ObjectQuery.Proofs.Columns.Agreement
import ObjectQuery.Proofs.Columns.Aliases
import ObjectQuery.Proofs.Columns.Created
import ObjectQuery.Proofs.Columns.Indexes
import ObjectQuery.Proofs.Columns.Projection
import ObjectQuery.Proofs.Columns.Reach
import ObjectQuery.Proofs.Columns.Reads
import ObjectQuery.Proofs.Columns.Routes
import ObjectQuery.Proofs.Columns.Writes
import ObjectQuery.Proofs.Expr.Grammar
import ObjectQuery.Proofs.Expr.Keys
import ObjectQuery.Proofs.Expr.Simplify
import ObjectQuery.Proofs.Filter.Canonical
import ObjectQuery.Proofs.Filter.Grammar
import ObjectQuery.Proofs.Filter.Keys
import ObjectQuery.Proofs.Filter.Normal
import ObjectQuery.Proofs.Filter.Reading
import ObjectQuery.Proofs.Filter.Simplify
import ObjectQuery.Proofs.Instant.Calendar
import ObjectQuery.Proofs.Instant.Text
import ObjectQuery.Proofs.Json
import ObjectQuery.Proofs.Literals.Conditions
import ObjectQuery.Proofs.Literals.Tests
import ObjectQuery.Proofs.Live.Delivery
import ObjectQuery.Proofs.Live.Runs
import ObjectQuery.Proofs.Numeral.Decimal
import ObjectQuery.Proofs.Numeral.Digits
import ObjectQuery.Proofs.Numeral.Double
import ObjectQuery.Proofs.Path
import ObjectQuery.Proofs.Path.Rendering
import ObjectQuery.Proofs.Path.Slices
import ObjectQuery.Proofs.Path.Spelling
import ObjectQuery.Proofs.Renumbering.Compilers
import ObjectQuery.Proofs.Renumbering.Conditions
import ObjectQuery.Proofs.Renumbering.Projection
import ObjectQuery.Proofs.Renumbering.Reach
import ObjectQuery.Proofs.Renumbering.Runs
import ObjectQuery.Proofs.Renumbering.Statements
import ObjectQuery.Proofs.Renumbering.Terms
import ObjectQuery.Proofs.Result
import ObjectQuery.Proofs.Row.Clear
import ObjectQuery.Proofs.Row.Decode
import ObjectQuery.Proofs.Row.Levels
import ObjectQuery.Proofs.Schema.Accepted
import ObjectQuery.Proofs.Schema.Closed
import ObjectQuery.Proofs.Schema.Documents
import ObjectQuery.Proofs.Schema.Leaves
import ObjectQuery.Proofs.Schema.Passage
import ObjectQuery.Proofs.Schema.Walks
import ObjectQuery.Proofs.Scoping.Clauses
import ObjectQuery.Proofs.Scoping.Draws
import ObjectQuery.Proofs.Scoping.Joins
import ObjectQuery.Proofs.Scoping.Projection
import ObjectQuery.Proofs.Scoping.Reach
import ObjectQuery.Proofs.Scoping.Reading
import ObjectQuery.Proofs.Scoping.Sites
import ObjectQuery.Proofs.Scoping.Statements
import ObjectQuery.Proofs.Scoping.Writing
import ObjectQuery.Proofs.Service.Attempts
import ObjectQuery.Proofs.Service.Calls
import ObjectQuery.Proofs.Service.Overlay
import ObjectQuery.Proofs.Service.Requests
import ObjectQuery.Proofs.Service.Upsert
import ObjectQuery.Proofs.SortSpec
import ObjectQuery.Proofs.Sql.Alike
import ObjectQuery.Proofs.Sql.Bound
import ObjectQuery.Proofs.Sql.Brackets
import ObjectQuery.Proofs.Sql.Closed
import ObjectQuery.Proofs.Sql.Codec
import ObjectQuery.Proofs.Sql.Decided
import ObjectQuery.Proofs.Sql.Like
import ObjectQuery.Proofs.Sql.Numbering
import ObjectQuery.Proofs.Sql.Predicate
import ObjectQuery.Proofs.Sql.Primary
import ObjectQuery.Proofs.Sql.Quoting
import ObjectQuery.Proofs.Sql.Tables
import ObjectQuery.Proofs.Statement.Acyclic
import ObjectQuery.Proofs.Statement.Assignments
import ObjectQuery.Proofs.Statement.Bindings
import ObjectQuery.Proofs.Statement.Brackets
import ObjectQuery.Proofs.Statement.Condition
import ObjectQuery.Proofs.Statement.Decided
import ObjectQuery.Proofs.Statement.Delimited
import ObjectQuery.Proofs.Statement.Depth
import ObjectQuery.Proofs.Statement.Discipline
import ObjectQuery.Proofs.Statement.Ends
import ObjectQuery.Proofs.Statement.ForeignFields
import ObjectQuery.Proofs.Statement.Groups
import ObjectQuery.Proofs.Statement.Guard
import ObjectQuery.Proofs.Statement.Keys
import ObjectQuery.Proofs.Statement.Matches
import ObjectQuery.Proofs.Statement.Names
import ObjectQuery.Proofs.Statement.NewRows
import ObjectQuery.Proofs.Statement.Operations
import ObjectQuery.Proofs.Statement.Pieces
import ObjectQuery.Proofs.Statement.Plan
import ObjectQuery.Proofs.Statement.Reached
import ObjectQuery.Proofs.Statement.Refusals
import ObjectQuery.Proofs.Statement.Runs
import ObjectQuery.Proofs.Statement.Shelter
import ObjectQuery.Proofs.Statement.Termination
import ObjectQuery.Proofs.Statement.Terms
import ObjectQuery.Proofs.Statement.Typing
import ObjectQuery.Proofs.Table
import ObjectQuery.Proofs.Value.Equality
import ObjectQuery.Proofs.Value.Kinds
import ObjectQuery.Proofs.Value.Order
import ObjectQuery.Row
import ObjectQuery.Schema.Basic
import ObjectQuery.Schema.Class
import ObjectQuery.Schema.FieldType
import ObjectQuery.Schema.Resolve
import ObjectQuery.Schema.Route
import ObjectQuery.Schema.TypeDocument
import ObjectQuery.Service.Basic
import ObjectQuery.Service.Store
import ObjectQuery.SortSpec
import ObjectQuery.Sql.Basic
import ObjectQuery.Sql.Codec
import ObjectQuery.Sql.JsonFragment
import ObjectQuery.Sql.Operand
import ObjectQuery.Sql.Predicate
import ObjectQuery.Sql.Quoted
import ObjectQuery.Sql.Update
import ObjectQuery.Statement.Compiler
import ObjectQuery.Statement.Condition
import ObjectQuery.Statement.Membership
import ObjectQuery.Statement.Populate
import ObjectQuery.Statement.Projection
import ObjectQuery.Statement.Reach
import ObjectQuery.Statement.Read
import ObjectQuery.Statement.Scope
import ObjectQuery.Statement.Tables
import ObjectQuery.Statement.Write
import ObjectQuery.Table
import ObjectQuery.Text.CodeRanges
import ObjectQuery.Text.Hidden
import ObjectQuery.Text.Inspect
import ObjectQuery.Text.Split
import ObjectQuery.Value.Basic
import ObjectQuery.Value.Compare
