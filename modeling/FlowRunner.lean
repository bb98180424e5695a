import FlowRunner.Log.Output
import FlowRunner.Proofs.Action.Writes
import FlowRunner.Proofs.Condition.Overflow
import FlowRunner.Proofs.Pool.Lookup
import FlowRunner.Proofs.Run.CleanCut
import FlowRunner.Proofs.Run.Crash
import FlowRunner.Proofs.Run.FailureChain
import FlowRunner.Proofs.Run.Reached
import FlowRunner.Proofs.Worker.Cleanup
import FlowRunner.Rehearsal.Reception
import FlowRunner.Rehearsal.Solo
import FlowRunner.Step.Wire
import FlowRunner.Proofs.Flow.Drain
import FlowRunner.Proofs.Flow.Exact
import FlowRunner.Proofs.Flow.Repeated
import FlowRunner.Proofs.Pool.Change
import FlowRunner.Proofs.Pool.Interleaving
import FlowRunner.Proofs.Pool.Exclusive
import FlowRunner.Proofs.Pool.Holding
import FlowRunner.Proofs.Worker.Advance
import FlowRunner.Proofs.Worker.Traffic
import FlowRunner.Proofs.Worker.OneRun
import FlowRunner.Proofs.Template.Plain
import FlowRunner.Proofs.Step.Check
import FlowRunner.Proofs.Run.Checked
import FlowRunner.Proofs.Step.Readable
import FlowRunner.Proofs.Http.Submission
import FlowRunner.Proofs.Worker.Surroundings
import FlowRunner.Proofs.Worker.Told
import FlowRunner.Proofs.Callback.Postable
import FlowRunner.Proofs.Callback.Completion
import FlowRunner.Proofs.Worker.Correspondence
import FlowRunner.Proofs.Worker.Upkeep
import FlowRunner.Proofs.Worker.Reported
import FlowRunner.Proofs.Worker.Undisturbed
import FlowRunner.Proofs.Csv.RoundTrip
import FlowRunner.Proofs.Files.WriteRead
import FlowRunner.Proofs.Action.CsvFile
import FlowRunner.Proofs.Run.Loop
import FlowRunner.Proofs.Http.Acceptance
import FlowRunner.Proofs.Worker.Release
import FlowRunner.Proofs.Csv.Torn
import FlowRunner.Proofs.Action.CsvShape
import FlowRunner.Proofs.Metrics.Series
import FlowRunner.Proofs.Run.Accountable
import FlowRunner.Proofs.Worker.Accounts
import FlowRunner.Proofs.Pool.Host
import FlowRunner.Proofs.Pool.Failure
import FlowRunner.Proofs.Step.Wire
import FlowRunner.Proofs.Flow.Chain
import FlowRunner.Proofs.Redaction.Secrets
import FlowRunner.Proofs.Pool.Shutdown
import FlowRunner.Proofs.Run.Replay
import FlowRunner.Proofs.Run.Receiver
import FlowRunner.Proofs.Run.Origin
import FlowRunner.Proofs.Worker.Spoken
import FlowRunner.Proofs.Worker.Outcome
import FlowRunner.Proofs.Worker.Cancelled
import FlowRunner.Proofs.Flow.Ties
import FlowRunner.Proofs.Template.OnePass
import FlowRunner.Proofs.Condition.Coherence
import FlowRunner.Proofs.Condition.Integers
import FlowRunner.Proofs.Condition.Outcome
import FlowRunner.Proofs.Run.Mirror
import FlowRunner.Proofs.Step.WellFormed
import FlowRunner.Proofs.Redaction.Idempotence
import FlowRunner.Proofs.Metrics.History
import FlowRunner.Proofs.Run.Stopping
import FlowRunner.Proofs.Action.Refusal
import FlowRunner.Proofs.Action.CsvWhole
import FlowRunner.Proofs.Text.Joined
import FlowRunner.Proofs.Template.Lists
import FlowRunner.Proofs.Flow.Multiplicity
import FlowRunner.Proofs.Sheet.Shown
import FlowRunner.Proofs.Sheet.Kept
import FlowRunner.Proofs.Action.WorkbookFile
