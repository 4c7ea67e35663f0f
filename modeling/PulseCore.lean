import PulseCore.Foundation.Framing
import PulseCore.Foundation.OffsetBuffer
import PulseCore.Foundation.Ledger
import PulseCore.Foundation.BigEndian
import PulseCore.Foundation.Potential
import PulseCore.Foundation.Simulation
import PulseCore.Foundation.Scoped
import PulseCore.Common.UniqueFd
import PulseCore.Protocol.Codec
import PulseCore.Protocol.RoundTrip
import PulseCore.Protocol.Stream
import PulseCore.Protocol.DecoderStorage
import PulseCore.Protocol.Viability
import PulseCore.Core.Handler
import PulseCore.Core.HandlerLaw
import PulseCore.Core.BoundedQueue
import PulseCore.Core.QueueWaiting
import PulseCore.Network.Syscall
import PulseCore.Network.BlockingTcp
import PulseCore.Network.BlockingServer
import PulseCore.Network.Exchange
import PulseCore.Network.Connection
import PulseCore.Network.ConnectionLaws
import PulseCore.Network.OutputLaw
import PulseCore.Network.Budgets
import PulseCore.Network.InputLaw
import PulseCore.Network.InputStorage
import PulseCore.Network.InputCost
import PulseCore.Network.WorkerPool
import PulseCore.Network.PoolRun
import PulseCore.Network.PoolThreads
import PulseCore.Network.ConnectionRegistry
import PulseCore.Network.RegistryHistory
import PulseCore.Network.EpollEchoServer
import PulseCore.Network.Run
import PulseCore.Network.Moves
import PulseCore.Network.WellFormed
import PulseCore.Network.Handlers
import PulseCore.Network.Settled
import PulseCore.Network.Reachable
import PulseCore.Network.Shutdown
import PulseCore.Network.Consistency
import PulseCore.Network.Wakeup
import PulseCore.Network.EventKeys
import PulseCore.Network.Isolation
import PulseCore.Network.Construction
import PulseCore.Network.ConstructionLaws
import PulseCore.Network.Stopping
import PulseCore.Network.Decoded
import PulseCore.Traffic.Machine
import PulseCore.Traffic.Invariant
import PulseCore.Traffic.Preservation
import PulseCore.Traffic.Refinement
import PulseCore.Traffic.Responses
import PulseCore.Traffic.Bounds
import PulseCore.Traffic.Progress
import PulseCore.Traffic.Reference
import PulseCore.Traffic.Client
import PulseCore.Traffic.Turns
import PulseCore.Traffic.Wraparound
import PulseCore.Traffic.Quiescence
import PulseCore.Traffic.Determinism
import PulseCore.Apps.FrontEnds
import PulseCore.Apps.Numbers
import PulseCore.Apps.EpollServer
import PulseCore.Apps.ClientOutput
import PulseCore.Apps.BenchmarkClients
import PulseCore.Apps.BenchmarkThreads
import PulseCore.Apps.BenchmarkMain
