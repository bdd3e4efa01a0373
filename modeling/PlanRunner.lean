import PlanRunner.CommandLine.Arguments
import PlanRunner.CommandLine.Program
import PlanRunner.Decimal.Shortest
import PlanRunner.Files.Access
import PlanRunner.Files.Tree
import PlanRunner.Graph.Basic
import PlanRunner.Graph.Cycle
import PlanRunner.Graph.Dependents
import PlanRunner.Graph.Layers
import PlanRunner.Json.Basic
import PlanRunner.Json.Document
import PlanRunner.Json.Lexeme
import PlanRunner.Json.Number
import PlanRunner.Json.Parser
import PlanRunner.Json.Printer
import PlanRunner.Main
import PlanRunner.Order.FirstSeen
import PlanRunner.Order.IdSet
import PlanRunner.Order.Keyed
import PlanRunner.Order.Ranked
import PlanRunner.Plan.Basic
import PlanRunner.Plan.Readiness
import PlanRunner.Plan.Signals
import PlanRunner.Plan.Status
import PlanRunner.Plan.Step
import PlanRunner.Proofs.Files.Written
import PlanRunner.Proofs.Graph.Countdown
import PlanRunner.Proofs.Graph.Cycles
import PlanRunner.Proofs.Graph.Dependents
import PlanRunner.Proofs.Graph.Layers
import PlanRunner.Proofs.Graph.Omissions
import PlanRunner.Proofs.Graph.Paths
import PlanRunner.Proofs.Graph.Walks
import PlanRunner.Proofs.Json.Documents
import PlanRunner.Proofs.Json.Lexemes
import PlanRunner.Proofs.Json.Parsing
import PlanRunner.Proofs.Plan.Bare
import PlanRunner.Proofs.Plan.Faults
import PlanRunner.Proofs.Plan.Lookup
import PlanRunner.Proofs.Plan.Readiness
import PlanRunner.Proofs.Plan.Unreachable
import PlanRunner.Proofs.Plan.Validity
import PlanRunner.Proofs.Replan.Composition
import PlanRunner.Proofs.Replan.Patterns
import PlanRunner.Proofs.Results
import PlanRunner.Proofs.Run.Accounts
import PlanRunner.Proofs.Run.Audit
import PlanRunner.Proofs.Run.Backoff
import PlanRunner.Proofs.Run.Batches
import PlanRunner.Proofs.Run.Blame
import PlanRunner.Proofs.Run.Causes
import PlanRunner.Proofs.Run.Cleanness
import PlanRunner.Proofs.Run.Coherence
import PlanRunner.Proofs.Run.Confluence
import PlanRunner.Proofs.Run.Deadlock
import PlanRunner.Proofs.Run.Hints
import PlanRunner.Proofs.Run.Isolation
import PlanRunner.Proofs.Run.Lineage
import PlanRunner.Proofs.Run.Moves
import PlanRunner.Proofs.Run.Outcome
import PlanRunner.Proofs.Run.Permanence
import PlanRunner.Proofs.Run.Persistence
import PlanRunner.Proofs.Run.Precedence
import PlanRunner.Proofs.Run.Preview
import PlanRunner.Proofs.Run.Progress
import PlanRunner.Proofs.Run.Records
import PlanRunner.Proofs.Run.Recovery
import PlanRunner.Proofs.Run.Rejection
import PlanRunner.Proofs.Run.Reordering
import PlanRunner.Proofs.Run.Repetition
import PlanRunner.Proofs.Run.Resumption
import PlanRunner.Proofs.Run.Retries
import PlanRunner.Proofs.Run.Skips
import PlanRunner.Proofs.Run.Statuses
import PlanRunner.Proofs.Run.Steering
import PlanRunner.Proofs.Run.Turns
import PlanRunner.Proofs.Run.Verdicts
import PlanRunner.Proofs.Settings.Loaded
import PlanRunner.Proofs.Settings.Overrides
import PlanRunner.Proofs.Settings.Selections
import PlanRunner.Proofs.Settings.Tables
import PlanRunner.Proofs.Settings.Written
import PlanRunner.Proofs.Template.Grammar
import PlanRunner.Proofs.Template.Locality
import PlanRunner.Proofs.Template.Missing
import PlanRunner.Proofs.Template.Occurrences
import PlanRunner.Proofs.Template.Substitution
import PlanRunner.Proofs.Toml.Lines
import PlanRunner.Proofs.Toml.Words
import PlanRunner.Proofs.Verdict.Policy
import PlanRunner.Proofs.Verdict.Rulings
import PlanRunner.Proofs.Wire.Answers
import PlanRunner.Proofs.Wire.Formats
import PlanRunner.Proofs.Wire.Plain
import PlanRunner.Proofs.Wire.Plans
import PlanRunner.Proofs.Wire.Records
import PlanRunner.Proofs.Wire.Reports
import PlanRunner.Proofs.Wire.Survival
import PlanRunner.Replan.Brief
import PlanRunner.Replan.Patterns
import PlanRunner.Run.Action
import PlanRunner.Run.Engine
import PlanRunner.Run.Log
import PlanRunner.Run.Rehearsal
import PlanRunner.Run.Report
import PlanRunner.Run.Timeline
import PlanRunner.Run.Turn
import PlanRunner.Settings.Basic
import PlanRunner.Settings.Overrides
import PlanRunner.Settings.Store
import PlanRunner.Settings.Text
import PlanRunner.Template.Reference
import PlanRunner.Template.Resolution
import PlanRunner.Text.Alphanumeric
import PlanRunner.Text.Blank
import PlanRunner.Text.Lowercase
import PlanRunner.Text.Quoted
import PlanRunner.Time.Timestamp
import PlanRunner.Toml.Parser
import PlanRunner.Toml.Printer
import PlanRunner.Toml.Quotation
import PlanRunner.Toml.Scalar
import PlanRunner.Toml.Tree
import PlanRunner.Toml.Value
import PlanRunner.Verdict.Ruling
import PlanRunner.Verdict.Tally
import PlanRunner.Wire.Answer
import PlanRunner.Wire.Choice
import PlanRunner.Wire.Graph
import PlanRunner.Wire.Plan
import PlanRunner.Wire.ReadError
import PlanRunner.Wire.Reader
import PlanRunner.Wire.Record
import PlanRunner.Wire.Report
import PlanRunner.Wire.Settings
import PlanRunner.Wire.Writer
