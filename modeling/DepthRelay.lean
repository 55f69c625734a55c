import DepthRelay.Bench.BindingBench
import DepthRelay.Bench.Crew
import DepthRelay.Bench.DeviceBench
import DepthRelay.Bench.Gate
import DepthRelay.Bench.HandoffBench
import DepthRelay.Bench.Script
import DepthRelay.Bench.SessionBench
import DepthRelay.Camera.Basic
import DepthRelay.Camera.Device
import DepthRelay.Camera.Driver
import DepthRelay.Camera.Synthetic
import DepthRelay.Command.Arguments
import DepthRelay.Command.Capture
import DepthRelay.Command.Output
import DepthRelay.Decimal.Shortest
import DepthRelay.Error
import DepthRelay.FrameBuffer
import DepthRelay.FrameLoop
import DepthRelay.FrameRate
import DepthRelay.Handoff
import DepthRelay.Host.Attachment
import DepthRelay.Host.Delivery
import DepthRelay.Host.Runtime
import DepthRelay.Json.Fault
import DepthRelay.Json.Print
import DepthRelay.Json.Scan
import DepthRelay.Json.Skip
import DepthRelay.Layout
import DepthRelay.Main
import DepthRelay.Point
import DepthRelay.Proofs.DriverCalls
import DepthRelay.Proofs.World
import DepthRelay.Relay.Basic
import DepthRelay.Relay.Channel
import DepthRelay.Relay.Delivery
import DepthRelay.Relay.Live
import DepthRelay.Sensor
import DepthRelay.Session.Basic
import DepthRelay.Session.State
import DepthRelay.Session.Stats
import DepthRelay.Settings.Basic
import DepthRelay.Settings.FileTree
import DepthRelay.Settings.Printer
import DepthRelay.Settings.Reader
import DepthRelay.Settings.Storage
import DepthRelay.Status
import DepthRelay.Text.Numeral
import DepthRelay.Text.Printable
import DepthRelay.Text.Quoted
import DepthRelay.Timing
import DepthRelay.Proofs.SessionCalls
import DepthRelay.Proofs.Custody
import DepthRelay.Proofs.Deliveries
import DepthRelay.Proofs.Coherence
import DepthRelay.Proofs.Bookkeeping
import DepthRelay.Proofs.Conservation
import DepthRelay.Proofs.HandoffProtocol
import DepthRelay.Proofs.Blurring
import DepthRelay.Proofs.FailedOperations
import DepthRelay.Proofs.BufferContents
import DepthRelay.Proofs.Decoding
import DepthRelay.Proofs.Metadata
import DepthRelay.Proofs.Passage
import DepthRelay.Proofs.ConcurrentDelivery
import DepthRelay.Proofs.Outcomes
import DepthRelay.Proofs.QueuedDelivery
import DepthRelay.Proofs.Share
import DepthRelay.Proofs.ShareDeliveries
import DepthRelay.Proofs.Apart
import DepthRelay.Proofs.ShareSteps
import DepthRelay.Proofs.Independence
import DepthRelay.Proofs.SharedCamera
import DepthRelay.Proofs.Hearing
import DepthRelay.Proofs.TimedRuns
import DepthRelay.Proofs.RunSamples
import DepthRelay.Proofs.ThreadAttachment
import DepthRelay.Proofs.Willing
import DepthRelay.Proofs.OperationErrors
import DepthRelay.Proofs.JsonTokens
import DepthRelay.Proofs.SettingsFiles
import DepthRelay.Proofs.Reception
import DepthRelay.Proofs.ExposedBuffers
import DepthRelay.Proofs.HandoffSteps
import DepthRelay.Proofs.Closing
import DepthRelay.Proofs.AbandonedFrames
import DepthRelay.Proofs.AbortedCalls
import DepthRelay.Proofs.AbortedRuns
import DepthRelay.Proofs.AttachedThreads
import DepthRelay.Proofs.LostThreads
import DepthRelay.Proofs.LoneSessions
import DepthRelay.Proofs.LostPeriods
import DepthRelay.Proofs.Containment
import DepthRelay.Proofs.DeviceObjects
import DepthRelay.Proofs.JsonGrammar
import DepthRelay.Proofs.JsonSkipping
import DepthRelay.Proofs.SettingsDocuments
import DepthRelay.Proofs.BufferHistory
import DepthRelay.Proofs.HandlerFailures
import DepthRelay.Proofs.OpeningStages
import DepthRelay.Proofs.SharedSerials
import DepthRelay.Proofs.DeviceRefusals
import DepthRelay.Proofs.RuntimeLifetimes
import DepthRelay.Proofs.TimingHistory
import DepthRelay.Proofs.InertChanges
import DepthRelay.Proofs.StopThenClose
import DepthRelay.Proofs.UseCaseNames
import DepthRelay.Proofs.Fixtures
import DepthRelay.Proofs.FullFrames
import DepthRelay.Proofs.CaptureReports
import DepthRelay.Proofs.CaptureOutput
import DepthRelay.Proofs.Checks
import DepthRelay.Proofs.CheckedRuns
import DepthRelay.Proofs.PacedThreads
import DepthRelay.Proofs.PacedSteps
import DepthRelay.Proofs.PacedRuns
