import SqDbg.RustStr
import SqDbg.Equiv.RustStr
import SqDbg.Sq
import SqDbg.Dbg.Hook
import SqDbg.Dbg.Equiv.Hook
import SqDbg.Dbg.Protocol
import SqDbg.Dbg.Equiv.Pairing
import SqDbg.Dbg.Equiv.Halted
import SqDbg.Dbg.Equiv.Progress
import SqDbg.Dbg.Equiv.Order
import SqDbg.Dbg.Equiv.Facade
import SqDbg.Frontend.ScriptBuffers
import SqDbg.Frontend.Equiv.ScriptBuffers
import SqDbg.Frontend.Examine
import SqDbg.Frontend.Equiv.Examine
import SqDbg.Frontend.Breakpoint
import SqDbg.Frontend.Equiv.Breakpoint
import SqDbg.Frontend.DebuggerFrontend
import SqDbg.Frontend.Equiv.Eval
import SqDbg.Frontend.Equiv.Captures
import SqDbg.Frontend.Equiv.Session
import SqDbg.Frontend.Equiv.BufferList
import SqDbg.Sq.GenFunc
import SqDbg.Sq.Equiv.GenFunc
