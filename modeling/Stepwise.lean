import Stepwise.Command.Arguments
import Stepwise.Command.Execute
import Stepwise.Completion.Chat
import Stepwise.Completion.Handler
import Stepwise.Completion.Request
import Stepwise.Context
import Stepwise.Expr.Basic
import Stepwise.Expr.Lexer
import Stepwise.Expr.Parser
import Stepwise.Expr.Token
import Stepwise.Handler.Basic
import Stepwise.Handler.Builtin
import Stepwise.Handler.Conditional
import Stepwise.Handler.Params
import Stepwise.Handler.Registry
import Stepwise.Handler.Result
import Stepwise.Handler.Schema
import Stepwise.Http.Exchange
import Stepwise.Http.Handler
import Stepwise.Http.Request
import Stepwise.Http.Status
import Stepwise.Http.Url
import Stepwise.Http.Wire
import Stepwise.Json.Basic
import Stepwise.Json.Decode
import Stepwise.Json.Reader
import Stepwise.Json.Writer
import Stepwise.Named
import Stepwise.Numeric.Binary
import Stepwise.Numeric.Count
import Stepwise.Numeric.Decimal
import Stepwise.Numeric.Power
import Stepwise.Numeric.Scaled
import Stepwise.Numeric.Shortest
import Stepwise.Path.Basic
import Stepwise.Path.Parser
import Stepwise.Record.Codec
import Stepwise.Record.Execution
import Stepwise.Record.Identity
import Stepwise.Record.Metrics
import Stepwise.Record.Step
import Stepwise.Record.Timestamp
import Stepwise.Retrieval.Handler
import Stepwise.Retrieval.Search
import Stepwise.Retrieval.Store
import Stepwise.Run.Clock
import Stepwise.Run.Engine
import Stepwise.Run.Event
import Stepwise.Run.Transcript
import Stepwise.Service.Error
import Stepwise.Settings
import Stepwise.Settings.Basic
import Stepwise.Settings.Environment
import Stepwise.Settings.Toml
import Stepwise.Settings.VariableFile
import Stepwise.Template
import Stepwise.Text.Base64
import Stepwise.Text.Blank
import Stepwise.Text.Letters
import Stepwise.Text.LowerCase
import Stepwise.Text.Quoted
import Stepwise.Text.Ranges
import Stepwise.Text.Taken
import Stepwise.Workflow.Basic
import Stepwise.Workflow.Codec
import Stepwise.Workflow.Error
import Stepwise.Workflow.Graph
import Stepwise.Workflow.Validation
import Stepwise.Main
import Stepwise.Proofs.Graph.Declared
import Stepwise.Proofs.Graph.Cycles
import Stepwise.Proofs.Graph.Reachability
import Stepwise.Proofs.Handler.Branching
import Stepwise.Proofs.Handler.Registry
import Stepwise.Proofs.Retrieval.Tenancy
import Stepwise.Proofs.Run.Attempts
import Stepwise.Proofs.Run.Isolation
import Stepwise.Proofs.Run.Record
import Stepwise.Proofs.Run.Routing
import Stepwise.Proofs.Run.Step
import Stepwise.Proofs.Run.Walk
import Stepwise.Proofs.Template.Pieces
import Stepwise.Proofs.Workflow.Validity
import Stepwise.Proofs.Run.Conclusion
import Stepwise.Proofs.Run.Succession
import Stepwise.Proofs.Run.View
import Stepwise.Proofs.Run.Calls
import Stepwise.Proofs.Run.Dataflow
import Stepwise.Proofs.Expr.Grammar
import Stepwise.Proofs.Expr.Reading
import Stepwise.Proofs.Expr.Parsing
import Stepwise.Proofs.Path.Raw
import Stepwise.Proofs.Numeric.Digits
import Stepwise.Proofs.Expr.Lexing
import Stepwise.Proofs.Expr.RoundTrip
import Stepwise.Proofs.Template.Parts
import Stepwise.Proofs.Json.Ordered
import Stepwise.Proofs.Json.Fields
import Stepwise.Proofs.Record.Reading
import Stepwise.Proofs.Record.Operations
import Stepwise.Proofs.Workflow.Reading
import Stepwise.Proofs.Run.Points
import Stepwise.Proofs.Run.Cancellation
import Stepwise.Proofs.Handler.Resolution
import Stepwise.Proofs.Numeric.Saturation
import Stepwise.Proofs.Record.Lifecycle
import Stepwise.Proofs.Run.Actions
import Stepwise.Proofs.Run.Events
import Stepwise.Proofs.Run.Usage
import Stepwise.Proofs.Graph.Report
import Stepwise.Proofs.Run.Retries
import Stepwise.Proofs.Run.Trials
import Stepwise.Proofs.Workflow.Declarations
import Stepwise.Proofs.Path.Grammar
import Stepwise.Proofs.Context.Dependence
import Stepwise.Proofs.Context.Recording
import Stepwise.Proofs.Template.Keeping
import Stepwise.Proofs.Expr.Lexemes
import Stepwise.Proofs.Expr.Placing
import Stepwise.Proofs.Expr.Spacing
import Stepwise.Proofs.Expr.Embedding
import Stepwise.Proofs.Expr.Failures
import Stepwise.Proofs.Numeric.Rounding
import Stepwise.Proofs.Numeric.Values
import Stepwise.Proofs.Expr.Integers
import Stepwise.Proofs.Retrieval.Terms
import Stepwise.Proofs.Retrieval.Scores
import Stepwise.Proofs.Retrieval.Numerals
import Stepwise.Proofs.Retrieval.Ranking
import Stepwise.Proofs.Handler.Refusals
import Stepwise.Proofs.Handler.Gate
import Stepwise.Proofs.Run.Services
import Stepwise.Proofs.Handler.Fields
import Stepwise.Proofs.Handler.Counts
import Stepwise.Proofs.Handler.Conditions
import Stepwise.Proofs.Completion.Totals
import Stepwise.Proofs.Run.Blame
import Stepwise.Proofs.Run.Panics
import Stepwise.Proofs.Template.Matches
import Stepwise.Proofs.Expr.Braces
import Stepwise.Proofs.Workflow.Embedded
import Stepwise.Proofs.Handler.Checking
import Stepwise.Proofs.Workflow.Lookup
