import ResonanceSignal.Lib.Checked
import ResonanceSignal.Lib.Result
import ResonanceSignal.Lib.Transition
import ResonanceSignal.Lib.Channel
import ResonanceSignal.Lib.LittleEndian
import ResonanceSignal.Lib.Text
import ResonanceSignal.Lib.KeyedMap
import ResonanceSignal.Lib.Strided
import ResonanceSignal.Lib.SegmentedLog
import ResonanceSignal.Lib.PrefixCode
import ResonanceSignal.Lib.Rounding
import ResonanceSignal.Lib.FloatRounding
import ResonanceSignal.Lib.FloatPacking
import ResonanceSignal.Lib.Floats
import ResonanceSignal.Core.Signal
import ResonanceSignal.Core.WaveformWindow
import ResonanceSignal.Core.Levels
import ResonanceSignal.Core.LevelAccuracy
import ResonanceSignal.Core.Normalization
import ResonanceSignal.Core.Scheduling
import ResonanceSignal.Core.Emission
import ResonanceSignal.Core.Admission
import ResonanceSignal.Core.Push
import ResonanceSignal.Core.SingleFrames
import ResonanceSignal.Core.Tumbling
import ResonanceSignal.Core.Streams
import ResonanceSignal.Core.Batches
import ResonanceSignal.Core.WindowTimes
import ResonanceSignal.Core.Ledger
import ResonanceSignal.Api.Contract
import ResonanceSignal.Agent.Capture
import ResonanceSignal.Agent.Timeline
import ResonanceSignal.Agent.BuilderRuns
import ResonanceSignal.Agent.Protocol
import ResonanceSignal.Agent.Wire
import ResonanceSignal.Agent.WaveformFormat
import ResonanceSignal.Agent.RecoveryConfig
import ResonanceSignal.Agent.RetryState
import ResonanceSignal.Agent.RetryRuns
import ResonanceSignal.Agent.RetrySnapshots
import ResonanceSignal.Agent.RetryPhases
import ResonanceSignal.Agent.RetryStable
import ResonanceSignal.Agent.RetrySticky
import ResonanceSignal.Agent.Recovery
import ResonanceSignal.Agent.FailClosed
import ResonanceSignal.Agent.RecoveryStorm
import ResonanceSignal.Agent.ProcessCapture
import ResonanceSignal.Agent.ProcessRuns
import ResonanceSignal.Agent.CaptureTrace
import ResonanceSignal.Agent.Supervisor
import ResonanceSignal.Agent.FailureAgreement
import ResonanceSignal.Agent.SupervisorRuns
import ResonanceSignal.Agent.Handoff
import ResonanceSignal.Agent.HandoffRuns
import ResonanceSignal.Agent.RegistryImage
import ResonanceSignal.Agent.Registry
import ResonanceSignal.Agent.RegistrySteps
import ResonanceSignal.Agent.RegistryRuns
import ResonanceSignal.Agent.RegistryReopen
import ResonanceSignal.Agent.RegistryCrash
import ResonanceSignal.Agent.RegistryFaults
import ResonanceSignal.Agent.RegistryBudget
import ResonanceSignal.Agent.RegistrySettled
import ResonanceSignal.Agent.RegistryAtomicity
import ResonanceSignal.Api.Discovery
import ResonanceSignal.Agent.Discovery
import ResonanceSignal.Agent.DiscoveryCoherence
import ResonanceSignal.Agent.DiscoveryTokens
import ResonanceSignal.Agent.Session
import ResonanceSignal.Agent.SessionSequences
import ResonanceSignal.Agent.SessionGrammar
import ResonanceSignal.Agent.SessionConformance
import ResonanceSignal.Agent.RegistryFallback
import ResonanceSignal.Agent.DiscoveryRepeats
import ResonanceSignal.Agent.Diagnostics
import ResonanceSignal.Agent.CaptureOwner
import ResonanceSignal.Agent.FingerprintInput
import ResonanceSignal.Agent.RetryAccounting
import ResonanceSignal.Agent.HandoffPool
import ResonanceSignal.Agent.SupervisedCapture
import ResonanceSignal.Agent.SupervisedOutcome
import ResonanceSignal.Agent.SessionDelivery
import ResonanceSignal.Agent.CaptureDelivery
import ResonanceSignal.Agent.SessionProgress
import ResonanceSignal.Lib.Permits
import ResonanceSignal.Agent.Service
import ResonanceSignal.Agent.ManagedService
import ResonanceSignal.Lib.Watch
import ResonanceSignal.Agent.Endpoints
import ResonanceSignal.Agent.CaptureStartup
import ResonanceSignal.Agent.WatchedEndpoint
