import SqDbg.Dbg.Hook

/-!
# The controller and the debug hook as one transition system

`SqDebugger::attach` installs a hook that runs on the VM thread; the facade runs on the
controller thread.  They share the `ExecState` flag, an unbounded command channel
(controller to hook) and a zero-capacity response channel (hook to controller).  `Sys`
holds both threads' positions and the channels, and `Sys.next` makes one atomic step of
either thread: a facade call, the hook's entry check, its `try_recv`, its end-of-iteration
check, the hand-over of a response on the rendezvous channel, or a receive timing out after
`RECV_TIMEOUT`.  Every interleaving of the two threads is a sequence of `Action`s.

Three ghost fields record what the code does not keep but the properties speak of: each
facade call's number (`epoch`), the provenance of each response in flight (`Tagged`), and
the responses each call received (`log`).  `owed` marks an `Event` the hook will emit with
no facade call asking for it (the first after `attach`, and one after a `halt(true)` that
found `Running` with the VM outside the hook, whose next debug event then reads `Halted`),
which a well-behaved controller takes through `receiver()`.
-/

namespace SqDbg

/-- A response in flight with its ghost provenance. -/
structure Tagged where
  resp : DebugResp
  /-- The command it answers; `none` for an `Event`. -/
  cmd : Option DebugMsg
  /-- For an `Event`, the `epoch` at the entry check of the debug invocation raising it;
  for a reply, the number of the facade call that sent the command. -/
  stamp : Nat

/-- Where the VM thread is. -/
inductive HookPc where
  /-- Running script code; its next debug event calls the hook. -/
  | vm
  /-- Blocked in `resp_tx.send(DebugResp::Event(..))` after the entry check read `Halted`. -/
  | sendEvent (t : Tagged)
  /-- At the top of the polling loop, before `rx.try_recv()`. -/
  | poll
  /-- Blocked in `resp_tx.send` with a `Backtrace` or `Locals` reply. -/
  | sendReply (t : Tagged)
  /-- At `exec_state.load(..) == Running` at the end of an iteration. -/
  | check
  /-- A send found the receiver dropped and its `unwrap` panicked. -/
  | panicked

/-- The VM thread runs script code, outside the hook. -/
def HookPc.atVm : HookPc → Bool
  | .vm => true
  | _ => false

/-- A facade call that blocks in `recv_timeout`. -/
inductive Call where
  | step
  /-- `halt(false)` that found `Running`. -/
  | halt
  | getBacktrace
  | getLocals (lvl : Option SqUnsignedInteger)
  /-- `receiver().recv_timeout(..)`, taking an `Event` no call asked for. -/
  | receiver
  deriving DecidableEq, Repr

/-- The command a call sends first. -/
def Call.msg : Call → Option DebugMsg
  | .step => some .step
  | .getBacktrace => some .backtrace
  | .getLocals lvl => some (.locals lvl)
  | .halt | .receiver => none

/-- Where the controller thread is. -/
inductive CtrlPc where
  | idle
  | waiting (c : Call)
  /-- The `SqDebugger` was dropped, and with it both channel endpoints it owns. -/
  | dropped
  deriving DecidableEq, Repr

/-- A response a facade call received, with the call's number. -/
structure Receipt where
  call : Call
  epoch : Nat
  got : Tagged

/-- Both threads, the flag and the two channels. -/
structure Sys where
  execState : ExecState
  /-- The command channel, oldest first, each command with its sender's number. -/
  cmds : List (DebugMsg × Nat)
  hook : HookPc
  ctrl : CtrlPc
  /-- Ghost: the number of facade calls begun. -/
  epoch : Nat
  /-- Ghost: an `Event` is due that no facade call asked for. -/
  owed : Bool
  /-- Ghost: the responses received, in order. -/
  log : List Receipt

/-- The state `SqDebugger::attach` leaves: `Halted`, empty channels, the VM running up to its
first debug event. -/
def attach : Sys := ⟨.halted, [], .vm, .idle, 0, true, []⟩

/-- One atomic step of one thread. -/
inductive Action where
  | resume
  | halt (noRecv : Bool)
  | step
  | getBacktrace
  | getLocals (lvl : Option SqUnsignedInteger)
  | receiver
  | drop
  /-- The pending `recv_timeout` gives up after `RECV_TIMEOUT`. -/
  | timeout
  /-- The VM raises a debug event and calls the hook, which reads the flag. -/
  | debugEvent (e : EventWithSrc)
  /-- `rx.try_recv()`, answering an inspection command from the stack as it is now. -/
  | tryRecv (vm : VmStack)
  /-- The end-of-iteration read of the flag (and the sleep after it). -/
  | check
  /-- The blocked `resp_tx.send` hands its response to the waiting receive. -/
  | deliver
  /-- The blocked `resp_tx.send` finds the receiver dropped. -/
  | sendFail

namespace Sys

/-- A facade call begins: its command goes into the channel stamped with the call's number,
and the controller blocks in `recv_timeout`. -/
def call (s : Sys) (c : Call) : Sys :=
  { s with
    cmds := s.cmds ++ (c.msg.map (·, s.epoch + 1)).toList
    ctrl := .waiting c
    epoch := s.epoch + 1 }

/-- The hook's position once a send completes. -/
def afterSend : HookPc → HookPc
  | .sendEvent _ => .poll
  | .sendReply _ => .check
  | pc => pc

/-- The response a blocked send offers. -/
def sending : HookPc → Option Tagged
  | .sendEvent t | .sendReply t => some t
  | _ => none

/-- One step of the controller (`resume`, `halt`, the facade calls, `receiver()`, dropping
the facade, a timeout) or of the VM thread (the hook's entry check, `try_recv`,
end-of-iteration check, and its sends). -/
def next (s : Sys) : Action → Option Sys
  | .resume => if s.ctrl = .idle then some { s with execState := .running } else none
  | .halt noRecv =>
    if s.ctrl = .idle then
      let s' := { s with execState := .halted }
      some (match s.execState, noRecv with
        | .running, false => s'.call .halt
        | .running, true => { s' with owed := s.owed || s.hook.atVm }
        | .halted, _ => s')
    else none
  | .step => if s.ctrl = .idle then some (s.call .step) else none
  | .getBacktrace => if s.ctrl = .idle then some (s.call .getBacktrace) else none
  | .getLocals lvl => if s.ctrl = .idle then some (s.call (.getLocals lvl)) else none
  | .receiver => if s.ctrl = .idle then some { s.call .receiver with owed := false } else none
  | .drop => if s.ctrl = .idle then some { s with ctrl := .dropped } else none
  | .timeout =>
    match s.ctrl with
    | .waiting _ => some { s with ctrl := .idle }
    | _ => none
  | .debugEvent e =>
    match s.hook with
    | .vm => some { s with
        hook := match s.execState with
          | .halted => .sendEvent ⟨.event e, none, s.epoch⟩
          | .running => .poll }
    | _ => none
  | .tryRecv vm =>
    match s.hook, s.cmds with
    | .poll, [] => some { s with hook := .check }
    | .poll, (m, st) :: rest => some { s with
        cmds := rest
        hook := match hookAnswer vm m with
          | none => .vm
          | some r => .sendReply ⟨r, some m, st⟩ }
    | _, _ => none
  | .check =>
    match s.hook with
    | .check => some { s with
        hook := match s.execState with
          | .running => .vm
          | .halted => .poll }
    | _ => none
  | .deliver =>
    match sending s.hook, s.ctrl with
    | some t, .waiting c => some { s with
        hook := afterSend s.hook
        ctrl := .idle
        log := s.log ++ [⟨c, s.epoch, t⟩] }
    | _, _ => none
  | .sendFail =>
    match sending s.hook, s.ctrl with
    | some _, .dropped => some { s with hook := .panicked }
    | _, _ => none

/-- A sequence of steps from `s`, if each is possible. -/
def run (s : Sys) : List Action → Option Sys
  | [] => some s
  | a :: as => (s.next a).bind (·.run as)

end Sys

/-- The states some run from `attach` reaches whose every step satisfies `P`. -/
inductive Reach (P : Sys → Action → Prop) : Sys → Prop where
  | attach : Reach P attach
  | next {s s' : Sys} {a : Action} : Reach P s → P s a → s.next a = some s' → Reach P s'

/-- The controller takes every `Event` the hook emits unasked through `receiver()`: while
one is due it does nothing else, and it calls `receiver()` only then. -/
def TakesUnasked (s : Sys) : Action → Prop
  | .resume | .halt _ | .step | .getBacktrace | .getLocals _ | .drop => s.owed = false
  | .receiver => s.owed = true
  | _ => True

/-- A controller that takes unasked `Event`s, in a run where no receive times out. -/
def Disciplined (s : Sys) : Action → Prop
  | .timeout => False
  | a => TakesUnasked s a

/-- A paused stack with no frames and no locals. -/
def VmStack.empty : VmStack :=
  ⟨fun _ => none, fun _ _ => none, 0, fun _ _ => rfl, fun _ _ => rfl, fun _ => 0,
    fun _ _ _ => rfl⟩

end SqDbg
