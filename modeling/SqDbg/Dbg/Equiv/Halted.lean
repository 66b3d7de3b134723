import SqDbg.Dbg.Equiv.Pairing

/-!
# While `Halted`, only `Step` releases the VM; a racing `halt` can stall

* `halted_vm_advances_by_steps`: over any run during which the state stays `Halted`, the
  debug invocations that hand control back to the VM are exactly the `Step` commands the
  hook takes, and the VM raises at most one debug event more than that (the one it is
  heading for, if it runs outside the hook at the start).  With no `Step` queued or sent,
  the VM never gets past its next debug event.  The hook reads the flag at its
  end-of-iteration check, and reading `Halted` there only sends it round the loop
  (`released_eq_takesStep`); a debug event needs the VM outside the hook, which only a
  release puts it back to (`debugEvent_step`).
* `halt_race_stalls`: a `halt(false)` whose swap lands between the hook's entry check
  (which read `Running`, so no `Event` was sent) and its end-of-iteration check leaves the
  hook parked, `Halted`, with nothing queued, while `halt` waits for an `Event`; no step
  but the timeout leaves that state (`HaltStalled.run`).
-/

namespace SqDbg

/-- Control returns to the VM: the hook goes from inside to `vm`. -/
def HookPc.release : HookPc → HookPc → Bool
  | .vm, _ => false
  | _, .vm => true
  | _, _ => false

@[simp] theorem HookPc.release_self (pc : HookPc) : pc.release pc = false := by
  cases pc <;> rfl

/-- The VM can only be outside the hook after a step if it was before or the step released
it. -/
theorem HookPc.atVm_le_release (pc pc' : HookPc) :
    (if pc'.atVm then 1 else 0) ≤ (if pc.atVm then 1 else 0) + if pc.release pc' then 1 else 0 := by
  cases pc <;> cases pc' <;> simp [HookPc.atVm, HookPc.release]

/-- The VM raises a debug event. -/
def Action.isDebugEvent : Action → Bool
  | .debugEvent _ => true
  | _ => false

namespace Sys

variable {s s' : Sys} {a : Action} {as : List Action}

/-- The step takes a `Step` command off the channel. -/
def takesStep (s : Sys) : Action → Bool
  | .tryRecv _ =>
    match s.hook, s.cmds with
    | .poll, (.step, _) :: _ => true
    | _, _ => false
  | _ => false

/-- The steps of a run that satisfy `p`, up to the first step that cannot be taken. -/
def countAlong (p : Sys → Action → Sys → Bool) (s : Sys) : List Action → Nat
  | [] => 0
  | a :: as =>
    match s.next a with
    | some s' => (if p s a s' then 1 else 0) + countAlong p s' as
    | none => 0

/-- The debug invocations that return control along a run. -/
def releases (s : Sys) : List Action → Nat :=
  countAlong (fun s _ s' => s.hook.release s'.hook) s

/-- The `Step` commands the hook takes along a run. -/
def stepsTaken (s : Sys) : List Action → Nat :=
  countAlong (fun s a _ => s.takesStep a) s

/-- The debug events the VM raises along a run. -/
def debugEvents (s : Sys) : List Action → Nat :=
  countAlong (fun _ a _ => a.isDebugEvent) s

/-- The state is `Halted` before and after every step of the run. -/
def HaltedAlong (s : Sys) : List Action → Prop
  | [] => s.execState = .halted
  | a :: as =>
    s.execState = .halted ∧
      match s.next a with
      | some s' => s'.HaltedAlong as
      | none => True

/-- **The step lemma.**  From a `Halted` state a step returns control exactly when it
takes a `Step`. -/
theorem released_eq_takesStep (he : s.execState = .halted) (hn : s.next a = some s') :
    s.hook.release s'.hook = s.takesStep a := by
  cases a with
  | debugEvent e =>
    simp only [next] at hn
    split at hn <;> cases hn
    simp_all [HookPc.release, takesStep]
  | tryRecv vm =>
    simp only [next] at hn
    split at hn <;> cases hn
    · simp_all [HookPc.release, takesStep]
    · rename_i m st rest hh hc
      cases m <;> simp_all [HookPc.release, takesStep, hookAnswer]
  | check =>
    simp only [next] at hn
    split at hn <;> cases hn
    simp_all [HookPc.release, takesStep]
  | deliver | sendFail =>
    simp only [next] at hn
    split at hn <;> cases hn
    rename_i hs _
    cases hh : s.hook <;> simp_all [sending, afterSend, HookPc.release, takesStep]
  | _ =>
    simp only [next] at hn
    (repeat' split at hn) <;> cases hn <;> simp [call, takesStep]

/-- No `Step` is queued. -/
def NoStep (s : Sys) : Prop := DebugMsg.step ∉ s.cmds.map Prod.fst

theorem takesStep_of_noStep (h : s.NoStep) : s.takesStep a = false := by
  cases a <;> simp only [takesStep]
  split <;> simp_all [NoStep]

theorem noStep_next (h : s.NoStep) (hn : s.next a = some s') (ha : a ≠ .step) : s'.NoStep := by
  unfold NoStep at h ⊢
  cases a with
  | step => exact absurd rfl ha
  | getBacktrace | getLocals _ =>
    simp only [next] at hn
    split_ifs at hn
    cases hn
    simpa [call, Call.msg] using h
  | tryRecv vm =>
    -- `try_recv` takes the queue's head.
    simp only [next] at hn
    split at hn <;> cases hn
    · exact h
    · simp_all
  | _ =>
    simp only [next] at hn
    (repeat' split at hn) <;> cases hn <;> first | exact h | simpa [call, Call.msg] using h

theorem stepsTaken_eq_zero (h : s.NoStep) (has : .step ∉ as) : s.stepsTaken as = 0 := by
  induction as generalizing s with
  | nil => rfl
  | cons a as ih =>
    simp only [List.mem_cons, not_or] at has
    simp only [stepsTaken, countAlong] at ih ⊢
    split
    · rename_i s' hn
      simp [takesStep_of_noStep h, ih (noStep_next h hn (Ne.symm has.1)) has.2]
    · rfl

theorem releases_eq_stepsTaken (h : s.HaltedAlong as) : s.releases as = s.stepsTaken as := by
  induction as generalizing s with
  | nil => rfl
  | cons a as ih =>
    simp only [HaltedAlong] at h
    simp only [releases, stepsTaken, countAlong] at ih ⊢
    split
    · rename_i s' hn
      simp only [hn] at h
      simp only [released_eq_takesStep h.1 hn, ih h.2]
    · rfl

/-- **The step lemma for debug events.**  A debug event takes the VM from outside the hook
into it, and no step puts it back outside without a release. -/
theorem debugEvent_step (hn : s.next a = some s') :
    (if a.isDebugEvent then 1 else 0) + (if s'.hook.atVm then 1 else 0) ≤
      (if s.hook.atVm then 1 else 0) + if s.hook.release s'.hook then 1 else 0 := by
  cases a with
  | debugEvent e =>
    simp only [next] at hn
    split at hn <;> cases hn
    rename_i hv
    cases s.execState <;> simp [Action.isDebugEvent, HookPc.atVm, HookPc.release, hv]
  | _ => simpa [Action.isDebugEvent] using HookPc.atVm_le_release s.hook s'.hook

/-- Along any run, the debug events are at most the releases, plus one if the VM starts
outside the hook. -/
theorem debugEvents_le_releases (s : Sys) (as : List Action) :
    s.debugEvents as ≤ (if s.hook.atVm then 1 else 0) + s.releases as := by
  induction as generalizing s with
  | nil => exact Nat.zero_le _
  | cons a as ih =>
    simp only [debugEvents, releases, countAlong] at ih ⊢
    split
    · rename_i s' hn
      have hstep := debugEvent_step hn
      have hrest := ih s'
      omega
    · exact Nat.zero_le _

/-- `halt(false)` waits for an `Event` while the hook loops, parked, with the state
`Halted` and nothing queued. -/
def HaltStalled (s : Sys) : Prop :=
  s.ctrl = .waiting .halt ∧ s.execState = .halted ∧ s.cmds = [] ∧ s.hook.Parked

/-- Every step but the timeout keeps a stalled `halt` stalled. -/
theorem HaltStalled.next (h : s.HaltStalled) (hn : s.next a = some s') (ha : a ≠ .timeout) :
    s'.HaltStalled := by
  obtain ⟨hc, he, hq, hp⟩ := h
  rw [HookPc.parked_iff] at hp
  cases a <;> simp only [next, hc, he, hq] at hn <;> (try exact absurd rfl ha) <;>
    rcases hp with hp | hp <;> simp [hp, sending] at hn <;> cases hn <;>
    simp [HaltStalled, hc, he, hq]

theorem HaltStalled.run (h : s.HaltStalled) {as : List Action} (hr : s.run as = some s')
    (has : .timeout ∉ as) : s'.HaltStalled := by
  induction as generalizing s with
  | nil => simpa [Sys.run, ← Option.some_inj.1 hr] using h
  | cons a as ih =>
    simp only [List.mem_cons, not_or] at has
    simp only [Sys.run, Option.bind_eq_some] at hr
    obtain ⟨s₁, hn, hr⟩ := hr
    exact ih (h.next hn (Ne.symm has.1)) hr has.2

end Sys

/-- **While `Halted`, the VM moves on only by `Step`s.**  Over any run during which the
state stays `Halted`, the debug invocations that return control are as many as the `Step`
commands the hook takes, and the VM raises at most one debug event more (one, if it starts
outside the hook).  With no `Step` queued at the start and none sent, the VM never gets
past its next debug event. -/
theorem halted_vm_advances_by_steps (s : Sys) (as : List Action) (h : s.HaltedAlong as) :
    s.releases as = s.stepsTaken as ∧
      s.debugEvents as ≤ (if s.hook.atVm then 1 else 0) + s.stepsTaken as ∧
      (DebugMsg.step ∉ s.cmds.map Prod.fst → .step ∉ as →
        s.releases as = 0 ∧ s.debugEvents as ≤ if s.hook.atVm then 1 else 0) := by
  have hrel := Sys.releases_eq_stepsTaken h
  have hev := Sys.debugEvents_le_releases s as
  refine ⟨hrel, hrel ▸ hev, fun hs has => ?_⟩
  have h0 : s.releases as = 0 := hrel.trans (Sys.stepsTaken_eq_zero hs has)
  exact ⟨h0, by simpa [h0] using hev⟩

/-- From the hook parked at `Halted`: a `Backtrace` answered, then a `Step` taken, and the
VM's next debug event blocks again; one release, one `Step`, one debug event. -/
theorem halted_step_passes_one_event :
    let s : Sys := ⟨.halted, [], .poll, .idle, 0, false, []⟩
    let as : List Action := [.getBacktrace, .tryRecv .empty, .deliver, .check, .step,
      .tryRecv .empty, .debugEvent ⟨.line 1, none⟩]
    s.HaltedAlong as ∧ s.releases as = 1 ∧ s.debugEvents as = 1 ∧
      (s.releases as = s.stepsTaken as ∧
        s.debugEvents as ≤ (if s.hook.atVm then 1 else 0) + s.stepsTaken as ∧
        (DebugMsg.step ∉ s.cmds.map Prod.fst → .step ∉ as →
          s.releases as = 0 ∧ s.debugEvents as ≤ if s.hook.atVm then 1 else 0)) := by
  intro s as
  have h : s.HaltedAlong as := by
    simp [s, as, Sys.HaltedAlong, Sys.next, Sys.call, Call.msg, hookAnswer, Sys.sending,
      Sys.afterSend]
  refine ⟨h, ?_, ?_, halted_vm_advances_by_steps s as h⟩
  · simp [s, as, Sys.releases, Sys.countAlong, Sys.next, Sys.call, Call.msg, hookAnswer,
      Sys.sending, Sys.afterSend, HookPc.release]
  · simp [s, as, Sys.debugEvents, Sys.countAlong, Sys.next, Sys.call, Call.msg, hookAnswer,
      Sys.sending, Sys.afterSend, Action.isDebugEvent]

/-- **A racing `halt(false)` waits for an `Event` that never comes.**  After the first
`Event` is taken, a `resume()` lets the hook return; the VM's next debug event enters the
hook while `Running`, so it sends nothing; `halt(false)` then swaps in `Halted` before the
hook's end-of-iteration check, which keeps the hook parked.  No step but the timeout
leaves the resulting state. -/
theorem halt_race_stalls :
    let ev : EventWithSrc := ⟨.line 1, none⟩
    ∃ s, attach.run [.receiver, .debugEvent ev, .deliver, .tryRecv .empty, .check, .resume,
        .tryRecv .empty, .check, .debugEvent ev, .halt false, .tryRecv .empty, .check] = some s ∧
      Reach Disciplined s ∧ s.HaltStalled ∧
      ∀ as s', s.run as = some s' → .timeout ∉ as → s'.HaltStalled := by
  intro ev
  have h1 := Reach.next (P := Disciplined) (a := .receiver) Reach.attach rfl rfl
  have h2 := Reach.next (a := .debugEvent ev) h1 trivial rfl
  have h3 := Reach.next (a := .deliver) h2 trivial rfl
  have h4 := Reach.next (a := .tryRecv .empty) h3 trivial rfl
  have h5 := Reach.next (a := .check) h4 trivial rfl
  have h6 := Reach.next (a := .resume) h5 rfl rfl
  have h7 := Reach.next (a := .tryRecv .empty) h6 trivial rfl
  have h8 := Reach.next (a := .check) h7 trivial rfl
  have h9 := Reach.next (a := .debugEvent ev) h8 trivial rfl
  have h10 := Reach.next (a := .halt false) h9 rfl rfl
  have h11 := Reach.next (a := .tryRecv .empty) h10 trivial rfl
  have h12 : Reach Disciplined ⟨.halted, [], .poll, .waiting .halt, 2, false,
      [⟨.receiver, 1, ⟨.event ev, none, 1⟩⟩]⟩ :=
    Reach.next (a := .check) h11 trivial rfl
  have hs : Sys.HaltStalled ⟨.halted, [], .poll, .waiting .halt, 2, false,
      [⟨.receiver, 1, ⟨.event ev, none, 1⟩⟩]⟩ := by simp [Sys.HaltStalled]
  exact ⟨_, rfl, h12, hs, fun _ _ hr has => hs.run hr has⟩

end SqDbg
