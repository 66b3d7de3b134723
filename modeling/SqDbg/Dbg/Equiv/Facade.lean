import SqDbg.Dbg.Equiv.Pairing

/-!
# What the facade calls return

`received_calls_decode`: in every run in which no receive times out and the controller takes
the unasked `Event`s through `receiver()`, no facade call that receives a response fails
with `"{r:?}: expected ..."`.  `step()` and `halt(false)` return an `Event`,
`get_backtrace()` the frames, and `get_locals(lvl)` the locals or, when the hook found none,
`"no locals at level {lvl}"` (`"no locals at all levels"` for `None`).  The `expected`
errors can only follow a timeout, as in `stale_reply_after_timeout`.

The proof puts the pairing invariant (each response is the reply to its own call) together
with the `match` each call makes on what it receives (`expectResp`): `Receipt.Paired.decodes`.
-/

namespace SqDbg

/-- What a call that received `r.got` returns: the payload it asked for, or, for
`get_locals`, the error naming the level when the hook found no locals; never an `expected`
error. -/
def Receipt.Decodes (r : Receipt) : Prop :=
  match r.call with
  | .step => ∃ e, stepRecv (.ok r.got.resp) = .ok e
  | .halt => ∃ e, haltRecv (.ok r.got.resp) = .ok (some e)
  | .receiver => True
  | .getBacktrace => ∃ bt, getBacktraceRecv (.ok r.got.resp) = .ok bt
  | .getLocals lvl => (∃ v, getLocalsRecv lvl (.ok r.got.resp) = .ok v) ∨
      getLocalsRecv lvl (.ok r.got.resp) = .error (lvl.elim .noLocalsAtAllLevels .noLocalsAtLevel)

theorem DebugResp.eq_event_of_isSome {r : DebugResp} (h : r.event?.isSome) :
    ∃ e, r = .event e := by
  cases r <;> simp_all [DebugResp.event?]

/-- The hook's `Locals` reply is `Some` of the locals it found, or `None`. -/
theorem hookAnswer_locals {vm : VmStack} {lvl : Option SqUnsignedInteger} {r : DebugResp}
    (h : hookAnswer vm (.locals lvl) = some r) : ∃ loc, r = .locals loc := by
  simp only [hookAnswer, Option.some.injEq] at h
  exact ⟨_, h.symm⟩

/-- A response paired with its call decodes as that call expects. -/
theorem Receipt.Paired.decodes {r : Receipt} (h : r.Paired) : r.Decodes := by
  obtain ⟨c, ep, resp, cmd, st⟩ := r
  cases c with
  | step | halt =>
    obtain ⟨e, rfl⟩ := DebugResp.eq_event_of_isSome h.1
    exact ⟨e, rfl⟩
  | receiver => trivial
  | getBacktrace =>
    obtain ⟨vm, hvm⟩ := h.2.2
    simp only [hookAnswer, Option.some.injEq] at hvm
    exact ⟨_, by rw [← hvm]; rfl⟩
  | getLocals lvl =>
    obtain ⟨loc, rfl⟩ := hookAnswer_locals h.2.2.choose_spec
    cases loc with
    | some v => exact .inl ⟨v, rfl⟩
    | none => exact .inr (by cases lvl <;> rfl)

/-- **No mismatched response.**  In every run in which no receive times out and the
controller takes the unasked `Event`s, every facade call that received a response returns
what it asked for: no `expected` error, and for `get_locals` at most the error saying the
hook found no locals. -/
theorem received_calls_decode {s : Sys} (h : Reach Disciplined s) : ∀ r ∈ s.log, r.Decodes :=
  fun r hr => ((Sys.Inv.reach h).paired r hr).decodes

/-- After `attach` the controller takes the first `Event`, then asks for the locals of
level `3`; both calls decode what they receive. -/
theorem locals_after_attach_decode :
    ∃ s : Sys, Reach Disciplined s ∧
      s.log.map Receipt.call = [.receiver, .getLocals (some 3)] ∧ ∀ r ∈ s.log, r.Decodes := by
  let ev : EventWithSrc := ⟨.line 1, none⟩
  have h1 := Reach.next (P := Disciplined) (a := .receiver) Reach.attach rfl rfl
  have h2 := Reach.next (a := .debugEvent ev) h1 trivial rfl
  have h3 := Reach.next (a := .deliver) h2 trivial rfl
  have h4 := Reach.next (a := .getLocals (some 3)) h3 rfl rfl
  have h5 := Reach.next (a := .tryRecv VmStack.empty) h4 trivial rfl
  have h6 := Reach.next (a := .deliver) h5 trivial rfl
  exact ⟨_, h6, rfl, received_calls_decode h6⟩

end SqDbg
