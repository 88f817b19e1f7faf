import Ensemble.Agent
import Ensemble.Agent.Document
import Ensemble.Application
import Ensemble.Coordination.Chain
import Ensemble.Coordination.Delegation
import Ensemble.Coordination.Document
import Ensemble.Coordination.Lane
import Ensemble.Coordination.Loop
import Ensemble.Coordination.Prompt
import Ensemble.Coordination.Round
import Ensemble.Coordination.Run
import Ensemble.Failure
import Ensemble.Failure.Document
import Ensemble.FileSystem
import Ensemble.Home
import Ensemble.Hub.Basic
import Ensemble.Hub.Call
import Ensemble.Hub.Document
import Ensemble.Hub.Step
import Ensemble.Id
import Ensemble.Json.Basic
import Ensemble.Json.Reader
import Ensemble.Json.Shape
import Ensemble.Json.Writer
import Ensemble.Log
import Ensemble.Number.Binary64
import Ensemble.Number.Literal
import Ensemble.Number.Shortest
import Ensemble.Number.Word
import Ensemble.Organization.Basic
import Ensemble.Organization.Document
import Ensemble.Organization.Operation
import Ensemble.Organization.Reconcile
import Ensemble.Organization.Steering
import Ensemble.Proofs.Hub.Drain
import Ensemble.Proofs.Hub.Queue
import Ensemble.Proofs.Hub.Record
import Ensemble.Proofs.Hub.Response
import Ensemble.Proofs.Id
import Ensemble.Proofs.Json.Extension
import Ensemble.Proofs.Json.Layout
import Ensemble.Proofs.Json.Token
import Ensemble.Proofs.Organization.Document
import Ensemble.Proofs.Organization.Membership
import Ensemble.Proofs.Organization.Placement
import Ensemble.Proofs.Organization.Reachable
import Ensemble.Proofs.Organization.Reconciliation
import Ensemble.Proofs.Reflection.Decision
import Ensemble.Proofs.Reflection.Document
import Ensemble.Proofs.Reflection.Lifecycle
import Ensemble.Proofs.Session.Document
import Ensemble.Proofs.Session.Flags
import Ensemble.Proofs.Session.Frame
import Ensemble.Proofs.State.Document
import Ensemble.Proofs.Turn.Deed
import Ensemble.Proofs.Turn.Desk
import Ensemble.Proofs.Turn.History
import Ensemble.Proofs.Turn.Idle
import Ensemble.Proofs.Turn.Queue
import Ensemble.Proofs.Turn.Reachable
import Ensemble.Proofs.Turn.Reopening
import Ensemble.Proofs.Turn.Response
import Ensemble.Proofs.Turn.Ticket
import Ensemble.Proofs.Turn.Waiter
import Ensemble.Reflection.Cycle
import Ensemble.Reflection.Document
import Ensemble.Reflection.Iteration
import Ensemble.Reflection.Prompt
import Ensemble.Reflection.Similarity
import Ensemble.Reflection.Verdict
import Ensemble.Registry
import Ensemble.Session.Basic
import Ensemble.Session.Document
import Ensemble.Session.Name
import Ensemble.Settings
import Ensemble.Settings.Document
import Ensemble.Simulation.Basic
import Ensemble.Simulation.Outside
import Ensemble.Simulation.Settle
import Ensemble.State.Document
import Ensemble.State.Storage
import Ensemble.Text.Blank
import Ensemble.Text.CaseTable
import Ensemble.Text.Lowercase
import Ensemble.Time.Calendar
import Ensemble.Time.Span
import Ensemble.Time.Timestamp
import Ensemble.Toml.Basic
import Ensemble.Toml.Reader
import Ensemble.Toml.Scalar
import Ensemble.Toml.Writer
import Ensemble.Turn.Basic
import Ensemble.Turn.Document
import Ensemble.Turn.Engine
import Ensemble.Watchdog
import Ensemble.Proofs.FileSystem
import Ensemble.Proofs.State.Storage
import Ensemble.Proofs.Hub.Run
import Ensemble.Proofs.Hub.Deadline
import Ensemble.Proofs.Watchdog
import Ensemble.Proofs.Hub.Patrol
import Ensemble.Proofs.Organization.Steering
import Ensemble.Proofs.Coordination.Lane
import Ensemble.Proofs.Coordination.Chain
import Ensemble.Proofs.Coordination.Round
import Ensemble.Proofs.Coordination.Supersession
import Ensemble.Proofs.Simulation.Rest
import Ensemble.Proofs.State.Restart
import Ensemble.Proofs.Organization.Stability
import Ensemble.Proofs.Text
import Ensemble.Proofs.Coordination.Delegation
import Ensemble.Proofs.Number
import Ensemble.Proofs.Reflection.Reached
import Ensemble.Proofs.State.Refusal
import Ensemble.Proofs.Coordination.Planning
import Ensemble.Proofs.Reflection.Outcome
import Ensemble.Proofs.Text.Word
import Ensemble.Proofs.Reflection.Verdict
import Ensemble.Proofs.Number.Literal
import Ensemble.Proofs.Reflection.Reply
import Ensemble.Proofs.Turn.Stream
import Ensemble.Proofs.Turn.Transcript
import Ensemble.Proofs.Turn.Order
import Ensemble.Proofs.Coordination.Adjustment
import Ensemble.Proofs.State.Loading
import Ensemble.Proofs.Turn.Abort
import Ensemble.Proofs.Turn.Independence
import Ensemble.Proofs.Hub.Observer
import Ensemble.Proofs.Refusal
import Ensemble.Proofs.Hub.Echo
import Ensemble.Proofs.Turn.Resumed
import Ensemble.Proofs.Number.Difference
import Ensemble.Proofs.Number.Share
import Ensemble.Proofs.Number.Monotone
import Ensemble.Proofs.Reflection.Trend
import Ensemble.Proofs.Reflection.Similarity
import Ensemble.Proofs.Reflection.Mark
import Ensemble.Proofs.Number.Digits
import Ensemble.Proofs.Number.Interval
import Ensemble.Proofs.Number.Shortest
import Ensemble.Proofs.Number.Positional
import Ensemble.Proofs.Toml.Scalar
import Ensemble.Proofs.Toml.Document
import Ensemble.Proofs.Settings.Document
