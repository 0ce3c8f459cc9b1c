import FuzzIntake.Broker.Address
import FuzzIntake.Configuration.Overrides
import FuzzIntake.Entry.Encode
import FuzzIntake.Operation.Document
import FuzzIntake.Rehearsal.Broker
import FuzzIntake.Rehearsal.Consumer
import FuzzIntake.Rehearsal.Database
import FuzzIntake.Rehearsal.FlushLoop
import FuzzIntake.Rehearsal.Intake
import FuzzIntake.Rehearsal.Pool
import FuzzIntake.Rehearsal.Server
import FuzzIntake.Proofs.Store.Commutation
import FuzzIntake.Proofs.Store.Regrouping
import FuzzIntake.Proofs.Store.Reporters
import FuzzIntake.Proofs.Store.Atomicity
import FuzzIntake.Proofs.Broker.Acknowledgement
import FuzzIntake.Proofs.Broker.Calls
import FuzzIntake.Proofs.Broker.Soundness
import FuzzIntake.Proofs.Broker.Paging
import FuzzIntake.Proofs.Broker.Session
import FuzzIntake.Proofs.Broker.Redelivery
import FuzzIntake.Proofs.Broker.Membership
import FuzzIntake.Proofs.Broker.Recovery
import FuzzIntake.Proofs.Lane.Books
import FuzzIntake.Proofs.Lane.Events
import FuzzIntake.Proofs.Lane.Balance
import FuzzIntake.Proofs.Lane.Settlement
import FuzzIntake.Proofs.Batch.Order
import FuzzIntake.Proofs.Batch.Timing
import FuzzIntake.Proofs.Intake.Actions
import FuzzIntake.Proofs.Intake.Flow
import FuzzIntake.Proofs.Intake.Conservation
import FuzzIntake.Proofs.Batch.Accumulator
import FuzzIntake.Proofs.Batch.Conveyor
import FuzzIntake.Proofs.Entry.RoundTrip
import FuzzIntake.Proofs.Lane.Effect
import FuzzIntake.Proofs.Store.Repetition
import FuzzIntake.Proofs.Store.Runs
import FuzzIntake.Proofs.Lane.Room
import FuzzIntake.Proofs.Lane.Retries
import FuzzIntake.Proofs.Lane.Crashes
import FuzzIntake.Proofs.Lane.LatestLetters
import FuzzIntake.Proofs.Store.Latest
import FuzzIntake.Proofs.Broker.AckFailures
import FuzzIntake.Proofs.Broker.Progress
import FuzzIntake.Proofs.Intake.Motion
import FuzzIntake.Proofs.Intake.Exposure
import FuzzIntake.Proofs.Intake.Interleaving
import FuzzIntake.Proofs.Store.Transaction
import FuzzIntake.Proofs.Json.Canonical
import FuzzIntake.Proofs.Json.Depth
import FuzzIntake.Proofs.Entry.NormalForm
import FuzzIntake.Proofs.Broker.Outage
import FuzzIntake.Proofs.Intake.LateSends
import FuzzIntake.Proofs.Intake.Isolation
import FuzzIntake.Proofs.Store.ClosedForm
import FuzzIntake.Proofs.Store.Reapplication
import FuzzIntake.Proofs.Lane.Replies
import FuzzIntake.Proofs.Lane.LastBatch
import FuzzIntake.Proofs.Lane.RetryCount
import FuzzIntake.Proofs.Broker.Tally
import FuzzIntake.Proofs.Broker.Backlog
import FuzzIntake.Proofs.Entry.Normalization
import FuzzIntake.Proofs.Batch.Deadline
import FuzzIntake.Proofs.Configuration.Validation
import FuzzIntake.Proofs.Configuration.Feasibility
import FuzzIntake.Proofs.Configuration.Redaction
import FuzzIntake.Proofs.Configuration.SourceOrigin
import FuzzIntake.Proofs.Configuration.Variables
import FuzzIntake.Proofs.Number.Seconds
import FuzzIntake.Proofs.Broker.Connection
import FuzzIntake.Proofs.Configuration.Derivation
import FuzzIntake.Proofs.Broker.Waiting
import FuzzIntake.Proofs.Batch.Calls
import FuzzIntake.Proofs.Broker.FreshEntries
import FuzzIntake.Proofs.Store.Partition
import FuzzIntake.Proofs.Entry.CommaList
