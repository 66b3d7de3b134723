import SqDbg.Dbg.Equiv.Pairing

/-!
# Replies keep their order

`answered_in_order`: in every run, receives that time out, `Event`s nobody takes and a
dropped facade included, the replies the controller receives answer commands of strictly
increasing call numbers.  No command is answered twice and no reply overtakes another: the
command channel and the response channel together are one queue from the facade's commands
to its replies.  The queue loses replies (a `Step` gets none, and a send that panics drops
its reply), and after a timeout a reply reaches a later call than the one that asked
(`stale_reply_after_timeout`), but it never duplicates or reorders them.

The proof follows the call numbers along the queue (`Sys.pipeline`): those of the replies
received, then the one in the hook's blocked send, then those of the commands queued.  A
facade call appends its own number, above all the others; every other action keeps the list
or drops an element of it (`Ordered.next`).
-/

namespace SqDbg

/-- The call number of the reply a blocked send offers; an `Event` answers no command. -/
def HookPc.replyStamp : HookPc → List Nat
  | .sendReply t => [t.stamp]
  | _ => []

namespace Sys

variable {s s' : Sys}

/-- The numbers of the calls whose commands the replies received answer, in the order
received. -/
def answered (s : Sys) : List Nat :=
  s.log.filterMap fun r => r.got.cmd.map fun _ => r.got.stamp

/-- The call numbers along the queue, oldest first: replies received, the reply in the
hook's blocked send, the commands queued. -/
def pipeline (s : Sys) : List Nat := s.answered ++ s.hook.replyStamp ++ s.cmds.map Prod.snd

/-- The queue is in call order and holds no number above the calls begun; a blocked send of
an `Event` answers no command and one of a reply answers one. -/
structure Ordered (s : Sys) : Prop where
  sorted : s.pipeline.Pairwise (· < ·)
  le_epoch : ∀ x ∈ s.pipeline, x ≤ s.epoch
  event : ∀ t, s.hook = .sendEvent t → t.cmd = none
  reply : ∀ t, s.hook = .sendReply t → t.cmd.isSome

theorem ordered_attach : attach.Ordered :=
  ⟨List.Pairwise.nil, (fun _ h => nomatch h), (fun _ h => nomatch h), fun _ h => nomatch h⟩

/-- An action that only drops numbers from the queue, keeps the blocked send's shape and
begins no call with a command keeps the order. -/
theorem Ordered.of_sublist (h : s.Ordered) (hp : List.Sublist s'.pipeline s.pipeline)
    (he : s.epoch ≤ s'.epoch) (hev : ∀ t, s'.hook = .sendEvent t → t.cmd = none)
    (hrep : ∀ t, s'.hook = .sendReply t → t.cmd.isSome) : s'.Ordered :=
  ⟨h.sorted.sublist hp, fun x hx => (h.le_epoch x (hp.subset hx)).trans he, hev, hrep⟩

theorem pipeline_call (s : Sys) (c : Call) :
    (s.call c).pipeline = s.pipeline ++ (c.msg.map fun _ => s.epoch + 1).toList := by
  simp only [pipeline, answered, call, List.map_append, List.append_assoc]
  cases c.msg <;> rfl

/-- A facade call appends its own number, the largest so far. -/
theorem Ordered.call (h : s.Ordered) (c : Call) : (s.call c).Ordered := by
  have hnew : ∀ y ∈ (c.msg.map fun _ => s.epoch + 1).toList, y = s.epoch + 1 := by
    cases c.msg <;> simp
  refine ⟨?_, ?_, h.event, h.reply⟩
  · rw [pipeline_call, List.pairwise_append]
    refine ⟨h.sorted, ?_, fun x hx y hy => hnew y hy ▸ Nat.lt_succ_of_le (h.le_epoch x hx)⟩
    cases c.msg <;> simp
  · rw [pipeline_call]
    intro x hx
    rcases List.mem_append.1 hx with hx | hx
    · exact (h.le_epoch x hx).trans (Nat.le_succ _)
    · exact (hnew x hx).le

theorem Ordered.next {a : Action} (h : s.Ordered) (hn : s.next a = some s') : s'.Ordered := by
  cases a with
  | resume | drop | timeout =>
    simp only [Sys.next] at hn
    split at hn <;> cases hn
    exact ⟨h.1, h.2, h.3, h.4⟩
  | halt nr =>
    simp only [Sys.next] at hn
    split_ifs at hn
    cases hn
    split
    · exact (show Ordered { s with execState := .halted } from ⟨h.1, h.2, h.3, h.4⟩).call .halt
    all_goals exact ⟨h.1, h.2, h.3, h.4⟩
  | step | getBacktrace | getLocals _ =>
    simp only [Sys.next] at hn
    split_ifs at hn
    cases hn
    exact h.call _
  | receiver =>
    simp only [Sys.next] at hn
    split_ifs at hn
    cases hn
    have hc := h.call .receiver
    exact ⟨hc.1, hc.2, hc.3, hc.4⟩
  | debugEvent e =>
    simp only [Sys.next] at hn
    split at hn <;> cases hn
    rename_i hv
    refine h.of_sublist ?_ le_rfl ?_ ?_ <;> cases s.execState <;>
      simp [pipeline, answered, HookPc.replyStamp, hv]
  | check =>
    simp only [Sys.next] at hn
    split at hn <;> cases hn
    rename_i hv
    refine h.of_sublist ?_ le_rfl ?_ ?_ <;> cases s.execState <;>
      simp [pipeline, answered, HookPc.replyStamp, hv]
  | tryRecv vm =>
    simp only [Sys.next] at hn
    split at hn <;> cases hn
    · rename_i hv _
      refine h.of_sublist ?_ le_rfl ?_ ?_ <;> simp [pipeline, answered, HookPc.replyStamp, hv]
    · rename_i m st rest hv hq
      refine h.of_sublist ?_ le_rfl ?_ ?_ <;> cases hookAnswer vm m <;>
        simp [pipeline, answered, HookPc.replyStamp, hv, hq]
  | deliver =>
    simp only [Sys.next] at hn
    split at hn <;> cases hn
    rename_i t c hs _
    refine h.of_sublist ?_ le_rfl ?_ ?_
    · rcases sending_eq_some hs with hh | hh
      · simp [pipeline, answered, HookPc.replyStamp, afterSend, hh, h.event t hh]
      · obtain ⟨m, hm⟩ := Option.isSome_iff_exists.1 (h.reply t hh)
        simp [pipeline, answered, HookPc.replyStamp, afterSend, hh, hm]
    all_goals rcases sending_eq_some hs with hh | hh <;> simp [afterSend, hh]
  | sendFail =>
    simp only [Sys.next] at hn
    split at hn <;> cases hn
    refine h.of_sublist ?_ le_rfl (fun _ h => nomatch h) (fun _ h => nomatch h)
    simp only [pipeline, HookPc.replyStamp]
    exact ((List.nil_sublist _).append_left _).append_right _

theorem Ordered.reach {P : Sys → Action → Prop} (h : Reach P s) : s.Ordered := by
  induction h with
  | attach => exact ordered_attach
  | next _ _ hn ih => exact ih.next hn

end Sys

/-- **Replies in order.**  In every run, whatever the controller does and whether or not its
receives time out, the replies received answer commands of strictly increasing call
numbers: none is received twice, and none before the reply to an earlier command. -/
theorem answered_in_order {P : Sys → Action → Prop} {s : Sys} (h : Reach P s) :
    s.answered.Pairwise (· < ·) :=
  (Sys.Ordered.reach h).sorted.sublist ((List.sublist_append_left _ _).trans
    (List.sublist_append_left _ _))

/-- Two `get_backtrace()` calls, the first timing out: the second receives the reply to the
first, and a later `get_locals()` the reply to the second.  Each reply reaches a later call
than its own, but in order. -/
theorem late_replies_in_order :
    ∃ s : Sys, Reach TakesUnasked s ∧ s.log.map Receipt.epoch = [1, 3, 4] ∧
      s.answered = [2, 3] ∧ s.answered.Pairwise (· < ·) := by
  let ev : EventWithSrc := ⟨.line 1, none⟩
  have h1 := Reach.next (P := TakesUnasked) (a := .receiver) Reach.attach rfl rfl
  have h2 := Reach.next (a := .debugEvent ev) h1 trivial rfl
  have h3 := Reach.next (a := .deliver) h2 trivial rfl
  have h4 := Reach.next (a := .getBacktrace) h3 rfl rfl
  have h5 := Reach.next (a := .timeout) h4 trivial rfl
  have h6 := Reach.next (a := .getBacktrace) h5 rfl rfl
  have h7 := Reach.next (a := .tryRecv VmStack.empty) h6 trivial rfl
  have h8 := Reach.next (a := .deliver) h7 trivial rfl
  have h9 := Reach.next (a := .check) h8 trivial rfl
  have h10 := Reach.next (a := .tryRecv VmStack.empty) h9 trivial rfl
  have h11 := Reach.next (a := .getLocals none) h10 rfl rfl
  have h12 := Reach.next (a := .deliver) h11 trivial rfl
  exact ⟨_, h12, rfl, rfl, answered_in_order h12⟩

end SqDbg
