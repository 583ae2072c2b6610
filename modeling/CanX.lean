import CanX.Transition.Path
import CanX.Transition.Program
import CanX.Storage.Table
import CanX.Domain.Frame
import CanX.Data.Model
import CanX.Data.Layout
import CanX.Data.Repository
import CanX.Data.Session
import CanX.Data.Writer
import CanX.Data.Finality
import CanX.Recorder.ProjectRecorder
import CanX.Recorder.Finalization
import CanX.Data.Completion
import CanX.Recorder.Verdict
import CanX.Data.Ledger
import CanX.Data.Commit
import CanX.Recorder.Completeness
import CanX.Safety.Approval
import CanX.Safety.Policy
import CanX.Safety.Audit
import CanX.Safety.Effect
import CanX.Safety.Authority
import CanX.Safety.Epoch
import CanX.Safety.Accountability
import CanX.Safety.SingleUse
import CanX.Safety.Fanout
import CanX.Safety.Engagement
import CanX.Runtime.Metrics
import CanX.Runtime.Service
import CanX.Recorder.Settlement
import CanX.Runtime.Pending
import CanX.Runtime.Frame
import CanX.Runtime.Counters
import CanX.Runtime.Turn
import CanX.Runtime.Ownership
import CanX.Runtime.Abort
import CanX.Runtime.Release
import CanX.Runtime.Finalizing
import CanX.Project.Opening
import CanX.Project.Migration
import CanX.Project.Race
import CanX.Dbc.Asset
import CanX.Dbc.Effect
import CanX.Dbc.Service
import CanX.Dbc.Contract
import CanX.Dbc.Persistence
import CanX.Dbc.Import
import CanX.Dbc.DecoderCache
import CanX.Dbc.Transparency
import CanX.Capture.Consumer
import CanX.Capture.Publication
import CanX.Capture.Lossless
import CanX.Desktop.CaptureCustody
import CanX.Desktop.DecodeCoordinator
import CanX.Desktop.DecodeDisposal
import CanX.Desktop.DecodeExclusion
import CanX.Desktop.DecodeFreshness
import CanX.Desktop.PipelineBound
import CanX.Desktop.DecodeProgress
import CanX.Desktop.DecodeVisibility
import CanX.Api.DecodeExchange
import CanX.Capture.Accounting
import CanX.Data.Columns
import CanX.Data.FrameTable
import CanX.Data.Reading
import CanX.Dbc.BitWalk
import CanX.Dbc.FrameDecode
import CanX.Numeric.Framing
import CanX.Query.Engine
import CanX.Query.Planning
import CanX.Query.ReadPaths
import CanX.Recorder.MsgpackRecorder
import CanX.Recorder.Restoration
import CanX.Transition.Fenced
import CanX.Data.Account
import CanX.Api.FrameProjection
import CanX.Api.ImportContent
import CanX.Capture.Normalizer
import CanX.Data.Recovery
import CanX.Dbc.DecodeBatch
import CanX.Desktop.DecodeAlignment
import CanX.Desktop.DecodeWorkSets
import CanX.Desktop.FrameViewport
import CanX.Query.Histogram
import CanX.Safety.Disarm
import CanX.Agent.Conflicts
import CanX.Agent.Dispatch
import CanX.Agent.Ownership
import CanX.Agent.Parallel
import CanX.Data.Atomicity
import CanX.Data.Crash
import CanX.Data.Starting
import CanX.Agent.Canonical
import CanX.Ci.Classification
import CanX.Ci.Gate
import CanX.Desktop.CleanShutdown
import CanX.Desktop.SessionSnapshots
import CanX.Desktop.SignalSeries
import CanX.Query.PathList
import CanX.Data.Registering
import CanX.Query.History
import CanX.Query.Summary
import CanX.Recorder.Archive
import CanX.Storage.Backlog
import CanX.Transport.Broker
import CanX.Numeric.Json
import CanX.Numeric.JsonText
import CanX.Project.Cleanup
import CanX.Project.Progress
