import Kanban.Launch
import Kanban.Main
import Kanban.Uuid
import Kanban.Proofs.Number.Rounding
import Kanban.Proofs.Number.Shortest
import Kanban.Proofs.Json.Numeral
import Kanban.Proofs.Json.Scan
import Kanban.Proofs.Json.RoundTrip
import Kanban.Proofs.Date
import Kanban.Proofs.Moment.Stamp
import Kanban.Proofs.Board.Check
import Kanban.Proofs.Number.Value
import Kanban.Proofs.Task
import Kanban.Proofs.Board.Snapshot
import Kanban.Proofs.Except
import Kanban.Proofs.Board.Command
import Kanban.Proofs.Board.Intake
import Kanban.Proofs.Board.Likeness
import Kanban.Proofs.Keeper.Operation
import Kanban.Proofs.Keeper.Reload
import Kanban.Proofs.Keeper.Durability
import Kanban.Proofs.Json.Comparison
import Kanban.Proofs.Keeper.StepLaw
import Kanban.Proofs.Json.Edit
import Kanban.Proofs.Board.Replay
import Kanban.Proofs.Keeper.Replay
import Kanban.Proofs.Board.Ids
import Kanban.Proofs.Text.Accent
import Kanban.Proofs.Keeper.Ids
import Kanban.Proofs.Board.Accents
import Kanban.Proofs.Board.Sample
import Kanban.Proofs.Keeper.Boot
import Kanban.Proofs.Keeper.Rejection
import Kanban.Proofs.Keeper.Reachable
import Kanban.Proofs.Keeper.Transfer
import Kanban.Proofs.Board.Refusal
import Kanban.Proofs.Number.Range
import Kanban.Proofs.Board.Report
import Kanban.Proofs.Search
import Kanban.Proofs.Api.Handler
import Kanban.Proofs.Api.Failure
import Kanban.Proofs.Api.Service
import Kanban.Proofs.Api.Session
import Kanban.Proofs.Board.Schema
import Kanban.Proofs.Json.Standard
import Kanban.Proofs.Board.Notes
import Kanban.Proofs.Keeper.Contents
import Kanban.Proofs.Keeper.Standard
import Kanban.Proofs.Board.Chronicle
import Kanban.Proofs.Keeper.Chronicle
import Kanban.Proofs.Text.Lowercase
import Kanban.Proofs.Text.Words
import Kanban.Proofs.Search.Clause
import Kanban.Proofs.Search.Reading
import Kanban.Proofs.Search.Conjunction
import Kanban.Proofs.Search.Literal
import Kanban.Proofs.Search.Rewording
import Kanban.Proofs.Search.Time
import Kanban.Proofs.Board.Revision
import Kanban.Proofs.Board.Commutation
import Kanban.Proofs.Keeper.Repetition
import Kanban.Proofs.Task.Cleaning
import Kanban.Proofs.Keeper.Identity
import Kanban.Proofs.Json.Equality
import Kanban.Proofs.Task.Patch
import Kanban.Proofs.Board.Issue
import Kanban.Proofs.Task.Fields
import Kanban.Proofs.Board.Repeats
import Kanban.Proofs.Keeper.Import
import Kanban.Proofs.Board.Normal
import Kanban.Proofs.Board.Identifier
import Kanban.Proofs.Text.Stretch
import Kanban.Proofs.Board.Times
import Kanban.Proofs.Storage.Tree
import Kanban.Proofs.Storage.Saving
import Kanban.Proofs.Board.Summary
import Kanban.Proofs.Settings
import Kanban.Proofs.Board.Editing
import Kanban.Proofs.Keeper.Omission
