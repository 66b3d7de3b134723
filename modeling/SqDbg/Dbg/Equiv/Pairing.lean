import SqDbg.Dbg.Protocol

/-!
# Responses reach the call that asked for them

* `stale_reply_after_timeout`: a facade call that times out leaves its command queued or
  its `Event` due, and the next call receives that response (here `get_backtrace`
  receives an `Event` and fails with "expected backtrace").  Nothing in the facade drains
  or matches responses.
* `replies_paired`: in every run in which no receive times out and the controller takes
  the unasked `Event`s through `receiver()`, each response a call receives is its own:
  `step` and `halt` get an `Event` raised by a debug invocation that began during the call,
  `get_backtrace` and `get_locals` the reply to the command they sent.
* `send_fails_after_drop`, `send_fails_after_early_drop`: dropping the `SqDebugger` while
  the hook is blocked in a send makes the send's `unwrap` panic.  The hook gets there after
  a timeout, and also with no timeout at all, when the drop comes before the first
  `receiver()`.

The proof is one invariant, `Sys.Config`, which says for each position of the controller
what the hook and the command channel can be doing (`Calm`: nothing owed; `EventDue`,
`StepDue`, `ReplyDue`: what the waiting call will receive).  `Inv.next` checks it against
every action; `Inv.reach` carries it along a run.
-/

namespace SqDbg

namespace HookPc

/-- Not in a send: running script code, or at one of the polling loop's two points. -/
def Quiet : HookPc → Prop
  | .vm | .poll | .check => True
  | _ => False

/-- At one of the polling loop's two points. -/
def Parked : HookPc → Prop
  | .poll | .check => True
  | _ => False

/-- Blocked sending an `Event` whose stamp satisfies `ok`. -/
def SendingEvent (ok : Nat → Prop) : HookPc → Prop
  | .sendEvent t => t.resp.event?.isSome ∧ ok t.stamp
  | _ => False

/-- Blocked sending the reply to command `m` of call number `e`. -/
def SendingReply (m : DebugMsg) (e : Nat) : HookPc → Prop
  | .sendReply t => t.cmd = some m ∧ t.stamp = e ∧ ∃ vm, hookAnswer vm m = some t.resp
  | _ => False

@[simp] theorem quiet_iff (pc : HookPc) : pc.Quiet ↔ pc = .vm ∨ pc = .poll ∨ pc = .check := by
  cases pc <;> simp [Quiet]

@[simp] theorem parked_iff (pc : HookPc) : pc.Parked ↔ pc = .poll ∨ pc = .check := by
  cases pc <;> simp [Parked]

@[simp] theorem sendingEvent_sendEvent (ok : Nat → Prop) (t : Tagged) :
    (HookPc.sendEvent t).SendingEvent ok ↔ t.resp.event?.isSome ∧ ok t.stamp := Iff.rfl

@[simp] theorem sendingReply_sendReply (m : DebugMsg) (e : Nat) (t : Tagged) :
    (HookPc.sendReply t).SendingReply m e ↔
      t.cmd = some m ∧ t.stamp = e ∧ ∃ vm, hookAnswer vm m = some t.resp := Iff.rfl

@[simp] theorem not_sendingEvent {ok : Nat → Prop} {pc : HookPc}
    (h : ∀ t, pc ≠ .sendEvent t) : ¬ pc.SendingEvent ok := by
  cases pc <;> simp_all [SendingEvent]

@[simp] theorem not_sendingReply {m : DebugMsg} {e : Nat} {pc : HookPc}
    (h : ∀ t, pc ≠ .sendReply t) : ¬ pc.SendingReply m e := by
  cases pc <;> simp_all [SendingReply]

end HookPc

/-- A received response is the one its call asked for: an `Event` raised during the call
for `step` and `halt`, an `Event` for `receiver()`, and for `get_backtrace` and
`get_locals` the hook's reply to the very command the call sent. -/
def Receipt.Paired (r : Receipt) : Prop :=
  match r.call with
  | .step | .halt => r.got.resp.event?.isSome ∧ r.got.stamp = r.epoch
  | .receiver => r.got.resp.event?.isSome
  | .getBacktrace => r.got.cmd = some .backtrace ∧ r.got.stamp = r.epoch ∧
      ∃ vm, hookAnswer vm .backtrace = some r.got.resp
  | .getLocals lvl => r.got.cmd = some (.locals lvl) ∧ r.got.stamp = r.epoch ∧
      ∃ vm, hookAnswer vm (.locals lvl) = some r.got.resp

namespace Sys

/-- Nothing owed: no command queued, the hook not sending, and parked if `Halted`. -/
def Calm (s : Sys) : Prop :=
  s.cmds = [] ∧ s.hook.Quiet ∧ (s.execState = .halted → s.hook.Parked)

/-- An `Event` may still come: `Halted`, no command queued, and the hook quiet or sending
an `Event` (raised during the current call, when `fresh`). -/
def EventDue (s : Sys) (fresh : Bool) : Prop :=
  s.execState = .halted ∧ s.cmds = [] ∧
    (s.hook.Quiet ∨ s.hook.SendingEvent fun st => fresh → st = s.epoch)

/-- `step()` is waiting: while `Running` the hook may take the `Step` but never sends;
while `Halted` the `Step` is queued for the parked hook, or the VM runs to its next
debug event, whose `Event` belongs to this call. -/
def StepDue (s : Sys) : Prop :=
  match s.execState with
  | .running => (s.cmds = [] ∨ s.cmds = [(.step, s.epoch)]) ∧ s.hook.Quiet
  | .halted => (s.cmds = [(.step, s.epoch)] ∧ s.hook.Parked) ∨
      (s.cmds = [] ∧ (s.hook = .vm ∨ s.hook.SendingEvent (· = s.epoch)))

/-- An inspection call is waiting: its command is queued (the hook quiet, parked if
`Halted`), or the hook is sending the reply to it. -/
def ReplyDue (s : Sys) (m : DebugMsg) : Prop :=
  (s.cmds = [(m, s.epoch)] ∧ s.hook.Quiet ∧ (s.execState = .halted → s.hook.Parked)) ∨
  (s.cmds = [] ∧ s.hook.SendingReply m s.epoch)

/-- What the hook and the command channel can be doing, for each position of the
controller in a disciplined run. -/
def Config (s : Sys) : Prop :=
  match s.ctrl with
  | .idle => if s.owed then s.EventDue false else s.Calm
  | .dropped => s.Calm
  | .waiting c => s.owed = false ∧
    match c with
    | .halt => s.EventDue true
    | .receiver => s.EventDue false
    | .step => s.StepDue
    | .getBacktrace => s.ReplyDue .backtrace
    | .getLocals lvl => s.ReplyDue (.locals lvl)

/-! ### One step keeps `Config` -/

variable {s s' : Sys}

theorem config_idle (hcf : s.Config) (hc : s.ctrl = .idle) (ho : s.owed = false) : s.Calm := by
  simpa [Config, hc, ho] using hcf

theorem config_resume (hcf : s.Config) (ho : s.owed = false)
    (hn : s.next .resume = some s') : s'.Config := by
  simp only [next] at hn
  split_ifs at hn with hc
  cases hn
  have := config_idle hcf hc ho
  simp_all [Config, Calm]

theorem config_halt {nr : Bool} (hcf : s.Config) (ho : s.owed = false)
    (hn : s.next (.halt nr) = some s') : s'.Config := by
  simp only [next] at hn
  split_ifs at hn with hc
  cases hn
  obtain ⟨h1, h2, h3⟩ := config_idle hcf hc ho
  cases he : s.execState <;> cases nr <;>
    simp_all [Config, Calm, EventDue, call, Call.msg]
  -- `halt(true)` while `Running` owes an `Event` exactly when the VM is outside the hook.
  rcases hcf with h | h | h <;> simp [h, HookPc.atVm]

theorem config_call {c : Call} {m : DebugMsg} (hm : c.msg = some m) (hcf : s.Config)
    (hc : s.ctrl = .idle) (ho : s.owed = false) :
    (s.call c).Config := by
  obtain ⟨h1, h2, h3⟩ := config_idle hcf hc ho
  cases c <;> cases he : s.execState <;> simp_all [Config, call, Call.msg, StepDue, ReplyDue]

theorem config_receiver (hcf : s.Config) (ho : s.owed = true)
    (hn : s.next .receiver = some s') : s'.Config := by
  simp only [next] at hn
  split_ifs at hn with hc
  cases hn
  have h : s.EventDue false := by simpa [Config, hc, ho] using hcf
  simpa [Config, call, Call.msg, EventDue] using h

theorem config_drop (hcf : s.Config) (ho : s.owed = false)
    (hn : s.next .drop = some s') : s'.Config := by
  simp only [next] at hn
  split_ifs at hn with hc
  cases hn
  simpa [Config] using config_idle hcf hc ho

theorem config_debugEvent {e : EventWithSrc} (hcf : s.Config)
    (hn : s.next (.debugEvent e) = some s') : s'.Config := by
  simp only [next] at hn
  split at hn <;> cases hn
  rename_i hv
  rcases hc : s.ctrl with _ | c | _ <;> cases he : s.execState <;>
    (try cases c) <;>
    simp_all [Config, Calm, EventDue, StepDue, ReplyDue]

theorem config_check (hcf : s.Config) (hn : s.next .check = some s') : s'.Config := by
  simp only [next] at hn
  split at hn <;> cases hn
  rename_i hv
  rcases hc : s.ctrl with _ | c | _ <;> cases he : s.execState <;>
    (try cases c) <;>
    simp_all [Config, Calm, EventDue, StepDue, ReplyDue]

theorem config_tryRecv {vm : VmStack} (hcf : s.Config)
    (hn : s.next (.tryRecv vm) = some s') : s'.Config := by
  simp only [next] at hn
  split at hn <;> cases hn
  · rcases hc : s.ctrl with _ | c | _ <;> cases he : s.execState <;>
      (try cases c) <;>
      simp_all [Config, Calm, EventDue, StepDue, ReplyDue]
  · rename_i m st rest _ hcmds
    rcases hc : s.ctrl with _ | c | _ <;> cases he : s.execState <;>
      (try cases c) <;>
      simp_all [Config, Calm, EventDue, StepDue, ReplyDue, hookAnswer]

theorem sending_eq_some {pc : HookPc} {t : Tagged} (h : sending pc = some t) :
    pc = .sendEvent t ∨ pc = .sendReply t := by
  cases pc <;> simp_all [sending]

theorem config_deliver (hcf : s.Config) (hn : s.next .deliver = some s') :
    s'.Config ∧ ∃ r, s'.log = s.log ++ [r] ∧ r.Paired := by
  simp only [next] at hn
  split at hn <;> cases hn
  rename_i t c hs hc
  simp only [Config, hc] at hcf
  rcases sending_eq_some hs with hh | hh <;>
  refine ⟨?_, _, rfl, ?_⟩ <;> cases he : s.execState <;> cases c <;>
    simp_all [Config, Calm, EventDue, StepDue, ReplyDue, afterSend, Receipt.Paired]

theorem config_sendFail (hcf : s.Config) : s.next .sendFail = none := by
  simp only [next]
  split
  · rename_i t hs hc
    simp only [Config, Calm, hc] at hcf
    rcases sending_eq_some hs with hh | hh <;> simp_all
  · rfl

theorem log_next {a : Action} (hn : s.next a = some s') (ha : a ≠ .deliver) :
    s'.log = s.log := by
  cases a <;> simp only [next] at hn <;> (repeat' split at hn) <;> cases hn <;>
    first | rfl | exact absurd rfl ha

/-- The invariant of disciplined runs: `Config`, and every response received so far was
the receiving call's own. -/
structure Inv (s : Sys) : Prop where
  config : s.Config
  paired : ∀ r ∈ s.log, r.Paired

theorem inv_attach : attach.Inv :=
  ⟨by simp [Config, SqDbg.attach, EventDue], by simp [SqDbg.attach]⟩

theorem Inv.next {a : Action} (hi : s.Inv) (hd : Disciplined s a) (hn : s.next a = some s') :
    s'.Inv := by
  -- Only `deliver` writes the log.
  have hlog : a ≠ .deliver → ∀ r ∈ s'.log, r.Paired := fun ha => by
    rw [log_next hn ha]; exact hi.paired
  cases a with
  | deliver =>
    obtain ⟨hc, r, hl, hr⟩ := config_deliver hi.config hn
    refine ⟨hc, fun r' hr' => ?_⟩
    rw [hl, List.mem_append, List.mem_singleton] at hr'
    exact hr'.elim (hi.paired r') (· ▸ hr)
  | resume => exact ⟨config_resume hi.config hd hn, hlog nofun⟩
  | halt _ => exact ⟨config_halt hi.config hd hn, hlog nofun⟩
  | step | getBacktrace | getLocals _ =>
    simp only [Sys.next] at hn
    split_ifs at hn with hc
    cases hn
    exact ⟨config_call rfl hi.config hc hd, hlog nofun⟩
  | receiver => exact ⟨config_receiver hi.config hd hn, hlog nofun⟩
  | drop => exact ⟨config_drop hi.config hd hn, hlog nofun⟩
  | timeout => exact hd.elim
  | debugEvent _ => exact ⟨config_debugEvent hi.config hn, hlog nofun⟩
  | tryRecv _ => exact ⟨config_tryRecv hi.config hn, hlog nofun⟩
  | check => exact ⟨config_check hi.config hn, hlog nofun⟩
  | sendFail => rw [config_sendFail hi.config] at hn; cases hn

theorem Inv.reach (h : Reach Disciplined s) : s.Inv := by
  induction h with
  | attach => exact inv_attach
  | next _ hd hn ih => exact ih.next hd hn

theorem Config.not_panicked (hcf : s.Config) : s.hook ≠ .panicked := by
  intro hp
  rcases hc : s.ctrl with _ | c | _ <;> (try cases c) <;> cases he : s.execState <;>
    simp_all [Config, Calm, EventDue, StepDue, ReplyDue]

end Sys

/-! ### The facade pairs responses with calls, as long as nothing times out -/

/-- **Pairing.**  In every run in which no receive times out and the controller takes the
unasked `Event`s through `receiver()`, each response a facade call receives is the reply
to that same call. -/
theorem replies_paired {s : Sys} (h : Reach Disciplined s) : ∀ r ∈ s.log, r.Paired :=
  (Sys.Inv.reach h).paired

/-- After `attach`, the first debug event's `Event` is taken through `receiver()` and a
`step()` receives the `Event` of the next one. -/
theorem step_after_attach_paired :
    let ev : EventWithSrc := ⟨.line 1, none⟩
    let s : Sys := ⟨.halted, [], .poll, .idle, 2, false,
      [⟨.receiver, 1, ⟨.event ev, none, 1⟩⟩, ⟨.step, 2, ⟨.event ev, none, 2⟩⟩]⟩
    Reach Disciplined s ∧ ∀ r ∈ s.log, r.Paired := by
  intro ev s
  have h1 := Reach.next (P := Disciplined) (a := .receiver) Reach.attach rfl rfl
  have h2 := Reach.next (a := .debugEvent ev) h1 trivial rfl
  have h3 := Reach.next (a := .deliver) h2 trivial rfl
  have h4 := Reach.next (a := .step) h3 rfl rfl
  have h5 := Reach.next (a := .tryRecv .empty) h4 trivial rfl
  have h6 := Reach.next (a := .debugEvent ev) h5 trivial rfl
  have h7 : Reach Disciplined s := Reach.next (a := .deliver) h6 trivial rfl
  exact ⟨h7, replies_paired h7⟩

/-- **No failed send without a timeout.**  In those runs no send of the hook ever fails,
even where the controller drops the `SqDebugger`: a drop can only come after a completed
call, with nothing queued and the hook owing nothing. -/
theorem hook_sends_succeed {s : Sys} (h : Reach Disciplined s) : s.hook ≠ .panicked :=
  (Sys.Inv.reach h).config.not_panicked

/-- A controller that takes the first `Event`, steps once and drops the facade leaves the
hook parked: it never sends again. -/
theorem drop_after_step_safe :
    let ev : EventWithSrc := ⟨.line 1, none⟩
    let s : Sys := ⟨.halted, [], .poll, .dropped, 2, false,
      [⟨.receiver, 1, ⟨.event ev, none, 1⟩⟩, ⟨.step, 2, ⟨.event ev, none, 2⟩⟩]⟩
    Reach Disciplined s ∧ s.hook ≠ .panicked := by
  intro ev s
  have h1 := Reach.next (P := Disciplined) (a := .receiver) Reach.attach rfl rfl
  have h2 := Reach.next (a := .debugEvent ev) h1 trivial rfl
  have h3 := Reach.next (a := .deliver) h2 trivial rfl
  have h4 := Reach.next (a := .step) h3 rfl rfl
  have h5 := Reach.next (a := .tryRecv .empty) h4 trivial rfl
  have h6 := Reach.next (a := .debugEvent ev) h5 trivial rfl
  have h7 := Reach.next (a := .deliver) h6 trivial rfl
  have h8 : Reach Disciplined s := Reach.next (a := .drop) h7 rfl rfl
  exact ⟨h8, hook_sends_succeed h8⟩

/-- A timed-out `step()` leaves its `Event` due; the next call, `get_backtrace()`, receives
it (and fails with "expected backtrace"), though the controller took every unasked
`Event`. -/
theorem stale_reply_after_timeout :
    ¬ ∀ s, Reach TakesUnasked s → ∀ r ∈ s.log, r.Paired := by
  intro h
  let ev : EventWithSrc := ⟨.line 1, none⟩
  have h1 := Reach.next (P := TakesUnasked) (a := .receiver) Reach.attach rfl rfl
  have h2 := Reach.next (a := .debugEvent ev) h1 trivial rfl
  have h3 := Reach.next (a := .deliver) h2 trivial rfl
  have h4 := Reach.next (a := .step) h3 rfl rfl
  have h5 := Reach.next (a := .tryRecv VmStack.empty) h4 trivial rfl
  have h6 := Reach.next (a := .timeout) h5 trivial rfl
  have h7 := Reach.next (a := .getBacktrace) h6 rfl rfl
  have h8 := Reach.next (a := .debugEvent ev) h7 trivial rfl
  have h9 : Reach TakesUnasked ⟨.halted, [(.backtrace, 3)], .poll, .idle, 3, false,
      [⟨.receiver, 1, ⟨.event ev, none, 1⟩⟩,
        ⟨.getBacktrace, 3, ⟨.event ev, none, 3⟩⟩]⟩ :=
    Reach.next (a := .deliver) h8 trivial rfl
  have := h _ h9 ⟨.getBacktrace, 3, ⟨.event ev, none, 3⟩⟩ (by simp)
  simp [Receipt.Paired] at this

/-- A `step()` times out while the VM is busy; the VM's next debug event finds `Halted` and
blocks sending its `Event`; the controller drops the `SqDebugger`, and the send fails. -/
theorem send_fails_after_drop : ¬ ∀ s, Reach TakesUnasked s → s.hook ≠ .panicked := by
  intro h
  let ev : EventWithSrc := ⟨.line 1, none⟩
  have h1 := Reach.next (P := TakesUnasked) (a := .receiver) Reach.attach rfl rfl
  have h2 := Reach.next (a := .debugEvent ev) h1 trivial rfl
  have h3 := Reach.next (a := .deliver) h2 trivial rfl
  have h4 := Reach.next (a := .step) h3 rfl rfl
  have h5 := Reach.next (a := .tryRecv VmStack.empty) h4 trivial rfl
  have h6 := Reach.next (a := .timeout) h5 trivial rfl
  have h7 := Reach.next (a := .debugEvent ev) h6 trivial rfl
  have h8 := Reach.next (a := .drop) h7 rfl rfl
  have h9 := Reach.next (a := .sendFail) h8 trivial rfl
  exact h _ h9 rfl

/-- No timeout is needed: the controller drops the `SqDebugger` before its first
`receiver()`, while the VM's first debug event is blocked sending the `Event` that `attach`
owes, and the send fails. -/
theorem send_fails_after_early_drop :
    ¬ ∀ s, Reach (fun _ a => a ≠ .timeout) s → s.hook ≠ .panicked := by
  intro h
  have h1 := Reach.next (P := fun _ a => a ≠ .timeout) (a := .debugEvent ⟨.line 1, none⟩)
    Reach.attach nofun rfl
  have h2 := Reach.next (a := .drop) h1 nofun rfl
  have h3 := Reach.next (a := .sendFail) h2 nofun rfl
  exact h _ h3 rfl

end SqDbg
