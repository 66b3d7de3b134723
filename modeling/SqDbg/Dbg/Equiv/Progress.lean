import SqDbg.Dbg.Equiv.Pairing

/-!
# Which facade calls the VM thread alone can finish

A facade call blocks in `recv_timeout` until the hook hands it a response.  In the runs in
which no receive times out and the controller takes the unasked `Event`s through
`receiver()`, the waiting calls fall into two kinds.

* `waiting_call_stalls`: `step()` made while `Running`, and `halt(false)` or `receiver()`
  waiting while the hook is parked in its polling loop, never get a response: whatever the
  two threads do, no step but the timeout ends the call.  While `Running` the hook sends an
  `Event` only from an entry check that reads `Halted`, and it takes a `Step` without
  replying; only the controller could set `Halted`, and it is blocked in the call.
* `waiting_call_completes`: every other waiting call is finished by the VM thread alone
  (debug events, `try_recv`, end-of-iteration checks and one send), and receives its own
  reply: `get_backtrace()` and `get_locals()` in either state, `step()` while `Halted`.
* `drop_while_halted_freezes`: the same silence, once the `SqDebugger` is dropped while
  `Halted`, holds the VM thread in the polling loop for good.

The first rests on `Sys.Silent`, "the hook will never send again", which every step but
the timeout keeps while a call waits (`Silent.next`); the second on `VmFinishes`, built
backwards from the send that completes the call.
-/

namespace SqDbg

/-- The VM thread's steps: the hook's entry check, `try_recv`, the end-of-iteration check
and its sends. -/
def Action.onVmThread : Action → Bool
  | .debugEvent _ | .tryRecv _ | .check | .deliver | .sendFail => true
  | _ => false

/-- The VM thread's steps are allowed in every disciplined run. -/
theorem disciplined_of_onVmThread {s : Sys} {a : Action} (h : a.onVmThread) :
    Disciplined s a := by
  cases a <;> first | exact trivial | cases h

theorem Reach.run_onVmThread {s s' : Sys} (h : Reach Disciplined s) {as : List Action}
    (hv : ∀ a ∈ as, a.onVmThread) (hr : s.run as = some s') : Reach Disciplined s' := by
  induction as generalizing s with
  | nil => simp only [Sys.run, Option.some.injEq] at hr; exact hr ▸ h
  | cons a as ih =>
    simp only [Sys.run, Option.bind_eq_some] at hr
    obtain ⟨s₁, hn, hr⟩ := hr
    exact ih (.next h (disciplined_of_onVmThread (hv a (List.mem_cons_self a as))) hn)
      (fun b hb => hv b (List.mem_cons_of_mem a hb)) hr

namespace Sys

variable {s s' : Sys} {a : Action} {c : Call}

/-! ### Calls that only the timeout ends -/

/-- The hook will never send again: it is not in a send, and either the state is
`Running` with only `Step`s queued, or `Halted` with the hook parked and nothing queued. -/
def Silent (s : Sys) : Prop :=
  s.hook.Quiet ∧
    match s.execState with
    | .running => ∀ p ∈ s.cmds, p.1 = .step
    | .halted => s.cmds = [] ∧ s.hook.Parked

/-- While the controller is not idle, every step but the timeout keeps the hook silent,
the controller where it is and the responses received as they are. -/
theorem Silent.next (h : s.Silent) (hc : s.ctrl ≠ .idle) (hn : s.next a = some s')
    (ha : a ≠ .timeout) : s'.Silent ∧ s'.ctrl = s.ctrl ∧ s'.log = s.log := by
  obtain ⟨hq, hr⟩ := h
  cases a with
  | timeout => exact absurd rfl ha
  | resume | halt _ | step | getBacktrace | getLocals _ | receiver | drop =>
    simp [next, hc] at hn
  | debugEvent e =>
    simp only [next] at hn
    split at hn <;> cases hn
    rename_i hv
    cases he : s.execState <;> simp only [he] at hr
    · exact ⟨⟨trivial, hr⟩, rfl, rfl⟩
    · simp [hv] at hr
  | tryRecv vm =>
    simp only [next] at hn
    split at hn <;> cases hn <;> cases he : s.execState <;> simp only [he] at hr
    · exact ⟨⟨trivial, hr⟩, rfl, rfl⟩
    · exact ⟨⟨trivial, hr.1, by simp⟩, rfl, rfl⟩
    · rename_i m st rest _ hq
      have hm : m = .step := hr (m, st) (by simp [hq])
      subst hm
      exact ⟨⟨trivial, fun p hp => hr p (by simp [hq, hp])⟩, rfl, rfl⟩
    · simp [hr.1] at *
  | check =>
    simp only [next] at hn
    split at hn <;> cases hn
    cases he : s.execState <;> simp only [he] at hr
    · exact ⟨⟨trivial, hr⟩, rfl, rfl⟩
    · exact ⟨⟨trivial, hr.1, by simp⟩, rfl, rfl⟩
  | deliver | sendFail =>
    simp only [next] at hn
    rw [HookPc.quiet_iff] at hq
    rcases hq with hq | hq | hq <;> simp [hq, sending] at hn

theorem Silent.run (h : s.Silent) (hc : s.ctrl ≠ .idle) {as : List Action}
    (hr : s.run as = some s') (has : .timeout ∉ as) :
    s'.Silent ∧ s'.ctrl = s.ctrl ∧ s'.log = s.log := by
  induction as generalizing s with
  | nil => simp only [Sys.run, Option.some.injEq] at hr; exact hr ▸ ⟨h, rfl, rfl⟩
  | cons a as ih =>
    simp only [List.mem_cons, not_or] at has
    simp only [Sys.run, Option.bind_eq_some] at hr
    obtain ⟨s₁, hn, hr⟩ := hr
    obtain ⟨h₁, hc₁, hl₁⟩ := h.next hc hn (Ne.symm has.1)
    obtain ⟨h₂, hc₂, hl₂⟩ := ih h₁ (hc₁ ▸ hc) hr has.2
    exact ⟨h₂, hc₂.trans hc₁, hl₂.trans hl₁⟩

/-- Once the facade is dropped only the VM thread moves, and it leaves the flag alone. -/
theorem next_of_dropped (hc : s.ctrl = .dropped) (hn : s.next a = some s') :
    a ≠ .timeout ∧ s'.ctrl = .dropped ∧ s'.execState = s.execState := by
  cases a with
  | resume | halt _ | step | getBacktrace | getLocals _ | receiver | drop | timeout | deliver =>
    simp [next, hc] at hn
  | debugEvent _ | tryRecv _ | check | sendFail =>
    simp only [next] at hn
    split at hn <;> cases hn <;> exact ⟨nofun, hc, rfl⟩

theorem run_of_dropped (hc : s.ctrl = .dropped) {as : List Action} (hr : s.run as = some s') :
    .timeout ∉ as ∧ s'.ctrl = .dropped ∧ s'.execState = s.execState := by
  induction as generalizing s with
  | nil => simp only [Sys.run, Option.some.injEq] at hr; exact hr ▸ ⟨nofun, hc, rfl⟩
  | cons a as ih =>
    simp only [Sys.run, Option.bind_eq_some] at hr
    obtain ⟨s₁, hn, hr⟩ := hr
    obtain ⟨ha, hc₁, he₁⟩ := next_of_dropped hc hn
    obtain ⟨has, hc', he'⟩ := ih hc₁ hr
    exact ⟨by simp [Ne.symm ha, has], hc', he'.trans he₁⟩

/-- `step()` waiting while `Running`, or `halt(false)` or `receiver()` waiting with the
hook parked: the hook is silent. -/
theorem Config.silent (hcf : s.Config) (hc : s.ctrl = .waiting c)
    (hstall : (c = .step ∧ s.execState = .running) ∨
      ((c = .halt ∨ c = .receiver) ∧ s.hook.Parked)) : s.Silent := by
  rcases hstall with ⟨rfl, he⟩ | ⟨hc', hp⟩
  · simp only [Config, hc, StepDue, he] at hcf
    obtain ⟨-, hq, hquiet⟩ := hcf
    refine ⟨hquiet, ?_⟩
    simp only [he]
    rcases hq with hq | hq <;> simp [hq]
  · have hq : s.execState = .halted ∧ s.cmds = [] := by
      rcases hc' with rfl | rfl <;> simp_all [Config, EventDue]
    rw [HookPc.parked_iff] at hp
    refine ⟨by rcases hp with hp | hp <;> simp [hp], ?_⟩
    simp only [hq, true_and]
    exact (HookPc.parked_iff _).2 hp

/-! ### Calls the VM thread finishes -/

/-- Some run of the VM thread alone ends the call waiting in `s`, with a response `r`. -/
def VmFinishes (c : Call) (s : Sys) : Prop :=
  ∃ as s' r, (∀ a ∈ as, a.onVmThread) ∧ s.run as = some s' ∧ s'.ctrl = .idle ∧
    s'.log = s.log ++ [r] ∧ r.call = c

theorem VmFinishes.of_sending {t : Tagged} (hc : s.ctrl = .waiting c)
    (ht : sending s.hook = some t) : VmFinishes c s :=
  ⟨[.deliver], { s with hook := afterSend s.hook, ctrl := .idle, log := s.log ++ [⟨c, s.epoch, t⟩] },
    ⟨c, s.epoch, t⟩, by simp [Action.onVmThread], by simp [run, next, ht, hc], rfl, rfl, rfl⟩

/-- A step of the VM thread other than the send keeps the log. -/
theorem VmFinishes.back {s₁ : Sys} (hn : s.next a = some s₁) (ha : a.onVmThread)
    (hd : a ≠ .deliver) (h : VmFinishes c s₁) : VmFinishes c s := by
  obtain ⟨as, s', r, hv, hr, hc, hl, hrc⟩ := h
  exact ⟨a :: as, s', r, List.forall_mem_cons.2 ⟨ha, hv⟩, by simp [run, hn, hr], hc,
    by rw [hl, log_next hn hd], hrc⟩

/-- A debug event while `Halted` sends an `Event`. -/
theorem VmFinishes.of_vm_halted (hc : s.ctrl = .waiting c) (hh : s.hook = .vm)
    (he : s.execState = .halted) : VmFinishes c s := by
  have hn : s.next (.debugEvent ⟨.line 0, none⟩) =
      some { s with hook := .sendEvent ⟨.event ⟨.line 0, none⟩, none, s.epoch⟩ } := by
    simp [next, hh, he]
  exact .back hn rfl nofun (.of_sending hc rfl)

/-- `try_recv` takes an inspection command and sends the reply. -/
theorem VmFinishes.of_poll_reply {m : DebugMsg} {st : Nat} {rest : List (DebugMsg × Nat)}
    (hc : s.ctrl = .waiting c) (hh : s.hook = .poll) (hq : s.cmds = (m, st) :: rest)
    (hm : m ≠ .step) : VmFinishes c s := by
  obtain ⟨r, hr⟩ : ∃ r, hookAnswer VmStack.empty m = some r := by
    cases m <;> simp_all [hookAnswer]
  have hn : s.next (.tryRecv .empty) =
      some { s with cmds := rest, hook := .sendReply ⟨r, some m, st⟩ } := by
    simp [next, hh, hq, hr]
  exact .back hn rfl nofun (.of_sending hc rfl)

/-- `try_recv` takes a `Step` while `Halted`; the next debug event sends its `Event`. -/
theorem VmFinishes.of_poll_step {st : Nat} {rest : List (DebugMsg × Nat)}
    (hc : s.ctrl = .waiting c) (hh : s.hook = .poll) (he : s.execState = .halted)
    (hq : s.cmds = (.step, st) :: rest) : VmFinishes c s := by
  have hn : s.next (.tryRecv .empty) = some { s with cmds := rest, hook := .vm } := by
    simp [next, hh, hq, hookAnswer]
  exact .back hn rfl nofun (.of_vm_halted hc rfl he)

/-- While `Running`, a debug event enters the polling loop, which takes an inspection
command. -/
theorem VmFinishes.of_vm_reply {m : DebugMsg} {st : Nat} {rest : List (DebugMsg × Nat)}
    (hc : s.ctrl = .waiting c) (hh : s.hook = .vm) (he : s.execState = .running)
    (hq : s.cmds = (m, st) :: rest) (hm : m ≠ .step) : VmFinishes c s := by
  have hn : s.next (.debugEvent ⟨.line 0, none⟩) = some { s with hook := .poll } := by
    simp [next, hh, he]
  exact .back hn rfl nofun (.of_poll_reply hc rfl hq hm)

/-- The end-of-iteration check returns from the hook while `Running`. -/
theorem next_check_running (hh : s.hook = .check) (he : s.execState = .running) :
    s.next .check = some { s with hook := .vm } := by
  simp [next, hh, he]

/-- The end-of-iteration check goes round the polling loop while `Halted`. -/
theorem next_check_halted (hh : s.hook = .check) (he : s.execState = .halted) :
    s.next .check = some { s with hook := .poll } := by
  simp [next, hh, he]

/-- An inspection command queued: the hook takes it wherever it is in its loop. -/
theorem VmFinishes.of_reply_queued {m : DebugMsg} {e : Nat} (hc : s.ctrl = .waiting c)
    (hq : s.cmds = [(m, e)]) (hm : m ≠ .step) (hquiet : s.hook.Quiet)
    (hp : s.execState = .halted → s.hook.Parked) : VmFinishes c s := by
  rw [HookPc.quiet_iff] at hquiet
  rcases hquiet with hh | hh | hh
  · cases he : s.execState
    · exact .of_vm_reply hc hh he hq hm
    · simp [hh, he] at hp
  · exact .of_poll_reply hc hh hq hm
  · cases he : s.execState
    · exact .back (next_check_running hh he) rfl nofun (.of_vm_reply hc rfl he hq hm)
    · exact .back (next_check_halted hh he) rfl nofun (.of_poll_reply hc rfl hq hm)

/-- An `Event` is due and the hook is not parked: it is at the VM, whose next debug event
sends it, or already sending it. -/
theorem VmFinishes.of_event_due {fresh : Bool} (hc : s.ctrl = .waiting c)
    (hd : s.EventDue fresh) (hp : ¬ s.hook.Parked) : VmFinishes c s := by
  obtain ⟨he, -, hq | hs⟩ := hd
  · rw [HookPc.quiet_iff] at hq
    rw [HookPc.parked_iff] at hp
    rcases hq with hh | hh | hh
    · exact .of_vm_halted hc hh he
    · exact absurd (.inl hh) hp
    · exact absurd (.inr hh) hp
  · obtain ⟨t, ht⟩ : ∃ t, s.hook = .sendEvent t := by
      cases h : s.hook <;> simp_all [HookPc.SendingEvent]
    exact .of_sending hc (by rw [ht]; rfl)

/-- Outside the two stalls, the VM thread finishes every waiting call. -/
theorem Config.vmFinishes (hcf : s.Config) (hc : s.ctrl = .waiting c)
    (hgo : ¬ ((c = .step ∧ s.execState = .running) ∨
      ((c = .halt ∨ c = .receiver) ∧ s.hook.Parked))) : VmFinishes c s := by
  simp only [Config, hc] at hcf
  obtain ⟨-, hcf⟩ := hcf
  cases c with
  | step =>
    have he : s.execState = .halted := by
      cases h : s.execState
      · simp [h] at hgo
      · rfl
    simp only [StepDue, he] at hcf
    rcases hcf with ⟨hq, hp⟩ | ⟨-, hh | hs⟩
    · rw [HookPc.parked_iff] at hp
      rcases hp with hh | hh
      · exact .of_poll_step hc hh he hq
      · exact .back (next_check_halted hh he) rfl nofun (.of_poll_step hc rfl he hq)
    · exact .of_vm_halted hc hh he
    · obtain ⟨t, ht⟩ : ∃ t, s.hook = .sendEvent t := by
        cases h : s.hook <;> simp_all [HookPc.SendingEvent]
      exact .of_sending hc (by rw [ht]; rfl)
  | halt => exact .of_event_due hc hcf (by simpa using hgo)
  | receiver => exact .of_event_due hc hcf (by simpa using hgo)
  | getBacktrace | getLocals _ =>
    rcases hcf with ⟨hq, hquiet, hp⟩ | ⟨-, hs⟩
    · exact .of_reply_queued hc hq nofun hquiet hp
    · obtain ⟨t, ht⟩ : ∃ t, s.hook = .sendReply t := by
        cases h : s.hook <;> simp_all [HookPc.SendingReply]
      exact .of_sending hc (by rw [ht]; rfl)

end Sys

/-! ### The two kinds of waiting call -/

/-- **Dropped while `Halted`.**  In every run in which no receive times out and the
controller takes the unasked `Event`s: once the `SqDebugger` is dropped while `Halted`, the
hook stays parked in its polling loop whatever the VM thread does, and the state stays
`Halted`.  Its `try_recv` finds the channel empty (and then disconnected), nothing can set
`Running` or queue a `Step` any more, so the VM never runs script code again. -/
theorem drop_while_halted_freezes {s : Sys} (h : Reach Disciplined s) (hd : s.ctrl = .dropped)
    (he : s.execState = .halted) :
    ∀ as s', s.run as = some s' → s'.hook.Parked ∧ s'.execState = .halted := by
  intro as s' hr
  have hcalm : s.Calm := by simpa [Sys.Config, hd] using (Sys.Inv.reach h).config
  obtain ⟨hq, hquiet, hp⟩ := hcalm
  have hs : s.Silent := ⟨hquiet, by simp only [he]; exact ⟨hq, hp he⟩⟩
  obtain ⟨hnt, -, hes⟩ := Sys.run_of_dropped hd hr
  obtain ⟨⟨-, hs'⟩, -⟩ := hs.run (by simp [hd]) hr hnt
  rw [hes, he] at hs' ⊢
  exact ⟨hs'.2, rfl⟩

/-- After `attach`, the controller takes the first `Event` and drops the facade: the VM
thread is left parked. -/
theorem drop_after_attach_freezes :
    let ev : EventWithSrc := ⟨.line 1, none⟩
    let s : Sys := ⟨.halted, [], .poll, .dropped, 1, false,
      [⟨.receiver, 1, ⟨.event ev, none, 1⟩⟩]⟩
    Reach Disciplined s ∧ s.ctrl = .dropped ∧ s.execState = .halted ∧
      ∀ as s', s.run as = some s' → s'.hook.Parked ∧ s'.execState = .halted := by
  intro ev s
  have h1 := Reach.next (P := Disciplined) (a := .receiver) Reach.attach rfl rfl
  have h2 := Reach.next (a := .debugEvent ev) h1 trivial rfl
  have h3 := Reach.next (a := .deliver) h2 trivial rfl
  have h4 : Reach Disciplined s := Reach.next (a := .drop) h3 rfl rfl
  exact ⟨h4, rfl, rfl, drop_while_halted_freezes h4 rfl rfl⟩

/-- **Calls that only the timeout ends.**  In every run in which no receive times out and
the controller takes the unasked `Event`s: when `step()` waits while `Running`, or
`halt(false)` or `receiver()` waits while the hook is parked in its polling loop, every
further run without a timeout leaves the call waiting and receives nothing. -/
theorem waiting_call_stalls {s : Sys} {c : Call} (h : Reach Disciplined s)
    (hc : s.ctrl = .waiting c)
    (hstall : (c = .step ∧ s.execState = .running) ∨
      ((c = .halt ∨ c = .receiver) ∧ s.hook.Parked)) :
    ∀ as s', s.run as = some s' → .timeout ∉ as → s'.ctrl = .waiting c ∧ s'.log = s.log := by
  intro as s' hr has
  obtain ⟨-, hcs, hl⟩ := ((Sys.Inv.reach h).config.silent hc hstall).run (by simp [hc]) hr has
  exact ⟨hcs.trans hc, hl⟩

/-- After the first `Event`, `resume()` and then `step()`: the call waits for good. -/
theorem step_while_running_waits :
    let ev : EventWithSrc := ⟨.line 1, none⟩
    let s : Sys := ⟨.running, [(.step, 2)], .poll, .waiting .step, 2, false,
      [⟨.receiver, 1, ⟨.event ev, none, 1⟩⟩]⟩
    Reach Disciplined s ∧ s.ctrl = .waiting .step ∧
      ((Call.step = .step ∧ s.execState = .running) ∨
        ((Call.step = .halt ∨ Call.step = .receiver) ∧ s.hook.Parked)) ∧
      ∀ as s', s.run as = some s' → .timeout ∉ as → s'.ctrl = .waiting .step ∧ s'.log = s.log := by
  intro ev s
  have h1 := Reach.next (P := Disciplined) (a := .receiver) Reach.attach rfl rfl
  have h2 := Reach.next (a := .debugEvent ev) h1 trivial rfl
  have h3 := Reach.next (a := .deliver) h2 trivial rfl
  have h4 := Reach.next (a := .resume) h3 rfl rfl
  have h5 : Reach Disciplined s := Reach.next (a := .step) h4 rfl rfl
  exact ⟨h5, rfl, .inl ⟨rfl, rfl⟩, waiting_call_stalls h5 rfl (.inl ⟨rfl, rfl⟩)⟩

/-- **Every other call completes without the controller.**  In the same runs, a call
waiting in any other situation (`get_backtrace()` or `get_locals()` in either state,
`step()` while `Halted`, `halt(false)` or `receiver()` while the hook is not parked) is
ended by some run of the VM thread alone, and the response it receives is its own. -/
theorem waiting_call_completes {s : Sys} {c : Call} (h : Reach Disciplined s)
    (hc : s.ctrl = .waiting c)
    (hgo : ¬ ((c = .step ∧ s.execState = .running) ∨
      ((c = .halt ∨ c = .receiver) ∧ s.hook.Parked))) :
    ∃ as s' r, (∀ a ∈ as, a.onVmThread) ∧ s.run as = some s' ∧ s'.ctrl = .idle ∧
      s'.log = s.log ++ [r] ∧ r.call = c ∧ r.Paired := by
  obtain ⟨as, s', r, hv, hr, hi, hl, hrc⟩ := (Sys.Inv.reach h).config.vmFinishes hc hgo
  exact ⟨as, s', r, hv, hr, hi, hl, hrc,
    (Sys.Inv.reach (h.run_onVmThread hv hr)).paired r (by simp [hl])⟩

/-- After the first `Event`, `get_backtrace()` while `Halted` is answered by the VM thread. -/
theorem backtrace_while_halted_completes :
    let ev : EventWithSrc := ⟨.line 1, none⟩
    let s : Sys := ⟨.halted, [(.backtrace, 2)], .poll, .waiting .getBacktrace, 2, false,
      [⟨.receiver, 1, ⟨.event ev, none, 1⟩⟩]⟩
    Reach Disciplined s ∧ s.ctrl = .waiting .getBacktrace ∧
      ¬ ((Call.getBacktrace = .step ∧ s.execState = .running) ∨
        ((Call.getBacktrace = .halt ∨ Call.getBacktrace = .receiver) ∧ s.hook.Parked)) ∧
      ∃ as s' r, (∀ a ∈ as, a.onVmThread) ∧ s.run as = some s' ∧ s'.ctrl = .idle ∧
        s'.log = s.log ++ [r] ∧ r.call = .getBacktrace ∧ r.Paired := by
  intro ev s
  have h1 := Reach.next (P := Disciplined) (a := .receiver) Reach.attach rfl rfl
  have h2 := Reach.next (a := .debugEvent ev) h1 trivial rfl
  have h3 := Reach.next (a := .deliver) h2 trivial rfl
  have h4 : Reach Disciplined s := Reach.next (a := .getBacktrace) h3 rfl rfl
  have hgo : ¬ ((Call.getBacktrace = .step ∧ s.execState = .running) ∨
      ((Call.getBacktrace = .halt ∨ Call.getBacktrace = .receiver) ∧ s.hook.Parked)) := by
    simp
  exact ⟨h4, rfl, hgo, waiting_call_completes h4 rfl hgo⟩

end SqDbg
