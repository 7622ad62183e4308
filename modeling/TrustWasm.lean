import TrustWasm.Lib.Program
import TrustWasm.Lib.Transition
import TrustWasm.Lib.Mask
import TrustWasm.Lib.Heap
import TrustWasm.Lib.Ownership
import TrustWasm.Tee.Api
import TrustWasm.Drivers.Bus
import TrustWasm.Drivers.Devices
import TrustWasm.Drivers.Dht
import TrustWasm.Drivers.Calls
import TrustWasm.Drivers.Footprint
import TrustWasm.IoHelper.Signal
import TrustWasm.IoHelper.Interface
import TrustWasm.IoHelper.Handlers
import TrustWasm.IoHelper.Commands
import TrustWasm.IoHelper.System
import TrustWasm.IoHelper.Locality
import TrustWasm.IoHelper.SlotProtocol
import TrustWasm.IoHelper.SlotInvariant
import TrustWasm.IoHelper.SlotRuns
import TrustWasm.IoHelper.SlotContract
import TrustWasm.IoHelper.CommandRuns
import TrustWasm.IoHelper.HeapProtocol
import TrustWasm.IoHelper.HeapInvariant
import TrustWasm.IoHelper.HeapRuns
import TrustWasm.IoHelper.HeapContract
import TrustWasm.IoHelper.Memory
import TrustWasm.IoHelper.Mailbox
import TrustWasm.IoHelper.Collection
import TrustWasm.Drivers.Success
import TrustWasm.IoHelper.Publication
import TrustWasm.IoHelper.Submission
import TrustWasm.IoHelper.Balance
import TrustWasm.Runtime.Dispatch
import TrustWasm.Runtime.Internals
import TrustWasm.Runtime.Pending
import TrustWasm.Runtime.Registration
import TrustWasm.IoHelper.Isolation
import TrustWasm.Native.Memory
import TrustWasm.Native.Async
import TrustWasm.Native.Numbering
import TrustWasm.Native.Callback
import TrustWasm.Runtime.Runs
import TrustWasm.Runtime.Call
import TrustWasm.Runtime.Modes
import TrustWasm.Runtime.Trap
import TrustWasm.Native.Collect
import TrustWasm.Native.SecureObject
import TrustWasm.Native.Buffers
import TrustWasm.IoHelper.PollInstants
import TrustWasm.Drivers.Clock
import TrustWasm.Drivers.Bsc
import TrustWasm.Drivers.BscWrite
import TrustWasm.Drivers.BscRead
import TrustWasm.Drivers.BscBus
import TrustWasm.Drivers.Eeprom
import TrustWasm.Lib.Locks
import TrustWasm.Drivers.Board
import TrustWasm.Drivers.BusLocks
import TrustWasm.Drivers.FlashLocks
import TrustWasm.Pta.LockDiscipline
import TrustWasm.Native.Sync
import TrustWasm.Native.RegisterWrite
import TrustWasm.Drivers.PinFunction
import TrustWasm.Drivers.PinRuns
import TrustWasm.Runtime.Adaptive
import TrustWasm.Lib.Fifo
import TrustWasm.Runtime.AdaptiveQueues
import TrustWasm.Runtime.AdaptiveRuns
import TrustWasm.Drivers.GnssBlocks
import TrustWasm.Drivers.DhtFrame
import TrustWasm.Drivers.DhtWaveform
import TrustWasm.Drivers.Spi
import TrustWasm.Lib.Duplex
import TrustWasm.Drivers.SpiBookkeeping
import TrustWasm.Drivers.SpiLink
import TrustWasm.Drivers.SpiDuplex
import TrustWasm.Drivers.FlashReport
import TrustWasm.Drivers.FlashChip
import TrustWasm.Drivers.Timeouts
import TrustWasm.Drivers.RegisterDevice
import TrustWasm.Drivers.RegisterBlock
import TrustWasm.Drivers.BusClock
import TrustWasm.Lib.LinkedQueue
import TrustWasm.Runtime.ReqQueues
import TrustWasm.Lib.BlockGraph
import TrustWasm.Aot.Emit
import TrustWasm.Aot.Sigpoll
import TrustWasm.Aot.Builds
