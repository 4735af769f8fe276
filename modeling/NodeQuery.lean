import NodeQuery.CommandLine.Arguments
import NodeQuery.CommandLine.Command
import NodeQuery.CommandLine.Run
import NodeQuery.Compilation
import NodeQuery.Config
import NodeQuery.Criterion
import NodeQuery.Criterion.Reading
import NodeQuery.Distinct
import NodeQuery.Engine
import NodeQuery.Exchange.Config
import NodeQuery.Exchange.Node
import NodeQuery.Exchange.Projection
import NodeQuery.Exchange.Query
import NodeQuery.Exchange.Schema
import NodeQuery.Exchange.Specification
import NodeQuery.Interval
import NodeQuery.Json.Basic
import NodeQuery.Json.Decoding
import NodeQuery.Json.Printing
import NodeQuery.Json.Reading
import NodeQuery.Main
import NodeQuery.Node
import NodeQuery.OrderedMap
import NodeQuery.Projection.Attributes
import NodeQuery.Projection.Plan
import NodeQuery.Projection.Qualification
import NodeQuery.Projection.Qualified
import NodeQuery.Projection.Reading
import NodeQuery.Projection.Scope
import NodeQuery.Projection.Select
import NodeQuery.Relational.Condition
import NodeQuery.Relational.Expression
import NodeQuery.Relational.Grammar.Definition
import NodeQuery.Relational.Grammar.Expression
import NodeQuery.Relational.Grammar.Parser
import NodeQuery.Relational.Grammar.Parts
import NodeQuery.Relational.Grammar.Precedence
import NodeQuery.Relational.Grammar.Query
import NodeQuery.Relational.Grammar.Statement
import NodeQuery.Relational.Grammar.Table
import NodeQuery.Relational.Grammar.Type
import NodeQuery.Relational.Keyword
import NodeQuery.Relational.Query
import NodeQuery.Relational.Table
import NodeQuery.Relational.Token
import NodeQuery.Resolution
import NodeQuery.Schema.EntityType
import NodeQuery.Schema.Snapshot
import NodeQuery.Schema.TypeId
import NodeQuery.Search.Document
import NodeQuery.Search.DocumentSet
import NodeQuery.Search.Index
import NodeQuery.Search.Order
import NodeQuery.Search.Query
import NodeQuery.Specification.Basic
import NodeQuery.Specification.NormalForm
import NodeQuery.Specification.Reading
import NodeQuery.Specification.Simplification
import NodeQuery.Text.Alphanumeric
import NodeQuery.Text.Blank
import NodeQuery.Text.CodeRun
import NodeQuery.Text.Decimal
import NodeQuery.Text.Hexadecimal
import NodeQuery.Text.LetterCase
import NodeQuery.Text.Quoted
import NodeQuery.Text.Reader
import NodeQuery.Text.Words
import NodeQuery.Timestamp.Basic
import NodeQuery.Timestamp.Text
import NodeQuery.Uuid
import NodeQuery.Proofs.Compilation
import NodeQuery.Proofs.Criterion.Legible
import NodeQuery.Proofs.Criterion.Reading
import NodeQuery.Proofs.Criterion.Values
import NodeQuery.Proofs.Distinct
import NodeQuery.Proofs.Exchange.Projection
import NodeQuery.Proofs.History
import NodeQuery.Proofs.Json.Decoding
import NodeQuery.Proofs.Misreading
import NodeQuery.Proofs.OrderedMap
import NodeQuery.Proofs.Projection.Counter
import NodeQuery.Proofs.Projection.Demand
import NodeQuery.Proofs.Projection.Depths
import NodeQuery.Proofs.Projection.Layers
import NodeQuery.Proofs.Projection.Modes
import NodeQuery.Proofs.Projection.Monotone
import NodeQuery.Proofs.Projection.Parts
import NodeQuery.Proofs.Projection.Plan
import NodeQuery.Proofs.Projection.Qualification
import NodeQuery.Proofs.Projection.Reachability
import NodeQuery.Proofs.Projection.Reading
import NodeQuery.Proofs.Projection.Scope
import NodeQuery.Proofs.Relational.Agreement
import NodeQuery.Proofs.Relational.Combinators
import NodeQuery.Proofs.Relational.Compilation
import NodeQuery.Proofs.Relational.Connectives
import NodeQuery.Proofs.Relational.Junction
import NodeQuery.Proofs.Relational.Layout
import NodeQuery.Proofs.Relational.Nesting
import NodeQuery.Proofs.Relational.Operands
import NodeQuery.Proofs.Relational.Outline
import NodeQuery.Proofs.Relational.Placeholders
import NodeQuery.Proofs.Relational.Sentence
import NodeQuery.Proofs.Relational.Table
import NodeQuery.Proofs.Relational.Template
import NodeQuery.Proofs.Relational.Tokens
import NodeQuery.Proofs.Resolution
import NodeQuery.Proofs.Resolution.Calls
import NodeQuery.Proofs.Schema.Declaration
import NodeQuery.Proofs.Schema.TypeId
import NodeQuery.Proofs.Search.Agreement
import NodeQuery.Proofs.Search.Collisions
import NodeQuery.Proofs.Search.Compilation
import NodeQuery.Proofs.Search.Consistency
import NodeQuery.Proofs.Search.Dates
import NodeQuery.Proofs.Search.DocumentSet
import NodeQuery.Proofs.Search.Evaluation
import NodeQuery.Proofs.Search.Fields
import NodeQuery.Proofs.Search.Order
import NodeQuery.Proofs.Search.Postings
import NodeQuery.Proofs.Search.Ranking
import NodeQuery.Proofs.Search.Refusal
import NodeQuery.Proofs.Search.Representation
import NodeQuery.Proofs.Search.Words
import NodeQuery.Proofs.Specification
import NodeQuery.Proofs.Specification.ClauseLimit
import NodeQuery.Proofs.Specification.Connective
import NodeQuery.Proofs.Specification.Duality
import NodeQuery.Proofs.Specification.Expansion
import NodeQuery.Proofs.Specification.Groups
import NodeQuery.Proofs.Specification.Leaves
import NodeQuery.Proofs.Specification.NormalForm
import NodeQuery.Proofs.Specification.OppositeForms
import NodeQuery.Proofs.Specification.Reading
import NodeQuery.Proofs.Specification.Simplification
import NodeQuery.Proofs.Specification.Simplified
import NodeQuery.Proofs.Specification.Size
import NodeQuery.Proofs.Specification.WellFormed
import NodeQuery.Proofs.Text.Bytes
import NodeQuery.Proofs.Text.Consumption
import NodeQuery.Proofs.Text.Digits
import NodeQuery.Proofs.Text.Ensures
import NodeQuery.Proofs.Text.Joined
import NodeQuery.Proofs.Text.LetterCase
import NodeQuery.Proofs.Text.Numerals
import NodeQuery.Proofs.Text.Order
import NodeQuery.Proofs.Text.Pieces
import NodeQuery.Proofs.Text.Places
import NodeQuery.Proofs.Text.Reader
import NodeQuery.Proofs.Text.Words
import NodeQuery.Proofs.Timestamp.Chronology
import NodeQuery.Proofs.Timestamp.Term
import NodeQuery.Proofs.Timestamp.Text
