import MessageSync.Main
import MessageSync.Proofs.Reconcile.Repetition
import MessageSync.Proofs.Reconcile.ServerIds
import MessageSync.Proofs.Reconcile.Settlement
import MessageSync.Proofs.Wire.Envelopes
import MessageSync.Proofs.Store.Success
import MessageSync.Proofs.Reconcile.Report
import MessageSync.Proofs.Reconcile.Pending
import MessageSync.Proofs.Reconcile.Deliveries
import MessageSync.Proofs.Engine.Computations
import MessageSync.Proofs.Engine.Handlers
import MessageSync.Proofs.Engine.Rest
import MessageSync.Proofs.Time.StoredOrder
import MessageSync.Proofs.Reconcile.Unsent
import MessageSync.Proofs.Engine.Steps
import MessageSync.Proofs.Engine.SyncRuns
import MessageSync.Proofs.Engine.Outbox
import MessageSync.Proofs.Reconcile.Calls
import MessageSync.Proofs.Reconcile.Atomicity
import MessageSync.Proofs.Engine.Callers
import MessageSync.Proofs.Engine.SyncResults
import MessageSync.Proofs.Engine.SyncResponses
import MessageSync.Proofs.Time.WireText
import MessageSync.Proofs.Wire.RecordValues
import MessageSync.Proofs.Wire.Classification
import MessageSync.Proofs.Wire.Frames
import MessageSync.Proofs.Wire.BareBodies
import MessageSync.Proofs.Engine.Frames
import MessageSync.Proofs.Wire.TypedBodies
import MessageSync.Proofs.Wire.PackedBodies
import MessageSync.Proofs.Link.Stanzas
import MessageSync.Proofs.Engine.Connections
import MessageSync.Simulation.Recorder
import MessageSync.Proofs.Engine.Calls
import MessageSync.Proofs.Engine.Sessions
import MessageSync.Proofs.Subscription.Registry
import MessageSync.Proofs.Engine.Subscriptions
import MessageSync.Proofs.Engine.Replay
import MessageSync.Proofs.Engine.Status
import MessageSync.Proofs.Engine.Answers
import MessageSync.Proofs.Engine.Unsubscribed
import MessageSync.Proofs.Reconcile.ReadBack
import MessageSync.Proofs.Subscription.Refusal
import MessageSync.Proofs.Text.ByteOrder
import MessageSync.Proofs.Reconcile.TimeOrder
import MessageSync.Proofs.Store.References
import MessageSync.Proofs.Time.Distance
import MessageSync.Proofs.Reconcile.Rules
import MessageSync.Proofs.Subscription.Sweep
import MessageSync.Proofs.Schedule.Failures
import MessageSync.Proofs.Engine.Timers
import MessageSync.Proofs.Schedule.Intervals
import MessageSync.Proofs.Store.Returned
import MessageSync.Proofs.Reconcile.Effects
import MessageSync.Proofs.Reconcile.Confinement
import MessageSync.Proofs.Engine.Confinement
import MessageSync.Proofs.Reconcile.Departures
import MessageSync.Proofs.Engine.News
import MessageSync.Proofs.Engine.Mute
import MessageSync.Proofs.Engine.Announcements
import MessageSync.Proofs.Events.Listeners
import MessageSync.Proofs.Schedule.Caps
import MessageSync.Proofs.Engine.Deadlines
import MessageSync.Proofs.CommandLine.Unreachable
import MessageSync.Proofs.Engine.LocalIds
