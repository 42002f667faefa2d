import M68HC05.Main
import M68HC05.Proofs.Glance
import M68HC05.Proofs.Restoration
import M68HC05.Proofs.SavedState
import M68HC05.Storage.Directory
import M68HC05.Proofs.AccessFlow
import M68HC05.Proofs.Budget
import M68HC05.Proofs.Overrun
import M68HC05.Proofs.Writes
import M68HC05.Proofs.Service
import M68HC05.Proofs.Interrupt
import M68HC05.Proofs.Breakpoint
import M68HC05.Proofs.Instrumentation
import M68HC05.Proofs.Loading
import M68HC05.Proofs.StatusHistory
import M68HC05.Proofs.Timeout
import M68HC05.Proofs.Clocks
import M68HC05.Proofs.ServiceWindow
import M68HC05.Proofs.Supervision
import M68HC05.Proofs.CompareMatch
import M68HC05.Proofs.Overwriting
import M68HC05.Proofs.CounterPair
import M68HC05.Proofs.HoldOff
import M68HC05.Proofs.PortExchange
import M68HC05.Proofs.Resumption
import M68HC05.Proofs.Retention
import M68HC05.Proofs.Portions
import M68HC05.Proofs.Multiprecision
import M68HC05.Proofs.ProgramCounter
import M68HC05.Proofs.Progress
import M68HC05.Proofs.Inspection
import M68HC05.Proofs.Patch
import M68HC05.Proofs.MemoryPatch
import M68HC05.Proofs.WatchHistory
import M68HC05.Proofs.BoardView
import M68HC05.Proofs.CallStack
import M68HC05.Proofs.LargerRom
import M68HC05.Proofs.Streams
import M68HC05.Proofs.Refusal
import M68HC05.Proofs.SavePath
import M68HC05.Proofs.FileTree
import M68HC05.Proofs.SavePlace
