import SqDbg.Frontend.Equiv.Eval
import SqDbg.Frontend.Equiv.ScriptBuffers

/-!
# The buffers over a whole REPL session

`session_buffers_fresh`: in every session that loads no state file and has taken fewer than
`2 ^ 32 - 1` steps, the buffer store keeps its numbering invariant (`ScriptBuffers.Valid`).
So `buffer new` announces a number that names no buffer before and the editor's text after,
and an `eval` whose buffer is not given or does not exist runs exactly the text the editor
returned: the `get(add(s)).unwrap()` of `eval_script` reads the buffer just added, never an
older one and never nothing.  A state file is taken as it is, so a loaded store whose
counter is not above its numbers would break this; the sessions here load none.

What one `do_actions` can do to the store is said once: keep it, or one `add`, `replace` or
`delete` (`BufStep`, from `manipulateBuffer_bufStep`, `selectScript_bufStep`,
`doActions_bufStep`).  `BufStep.valid` keeps the invariant with the counter up by at most
one, and `Session.run_valid` carries it along a run.
-/

namespace SqDbg

namespace ScriptBuffers

/-- What one command can do to the store: nothing, or one `add`, `replace` or `delete`. -/
inductive BufStep (b : ScriptBuffers) : ScriptBuffers → Prop
  | keep : BufStep b b
  | add (s : String) : BufStep b (b.add s).1
  | replace (n : UInt32) (s : String) : BufStep b (b.replace n s)
  | delete (n : UInt32) : BufStep b (b.delete n)

theorem BufStep.valid {b b' : ScriptBuffers} (h : BufStep b b') (hv : b.Valid)
    (hroom : b.counter.toNat + 1 < 2 ^ 32) :
    b'.Valid ∧ b'.counter.toNat ≤ b.counter.toNat + 1 := by
  cases h with
  | keep => exact ⟨hv, Nat.le_succ _⟩
  | add s => exact ⟨hv.add hroom s, (toNat_succ hroom).le⟩
  | replace n s => exact ⟨hv.replace n s, Nat.le_succ _⟩
  | delete n => exact ⟨hv.delete n, Nat.le_succ _⟩

end ScriptBuffers

open ScriptBuffers

/-! ### One command -/

theorem manipulateBuffer_bufStep (b : ScriptBuffers) (env : FrontendEnv)
    (cmd : BufferCommands) : BufStep b (manipulateBuffer b env cmd).1 := by
  cases cmd with
  | new => simp only [manipulateBuffer]; split; exacts [.add _, .keep]
  | delete n => exact .delete n
  | edit n => simp only [manipulateBuffer]; split; split; exacts [.replace _ _, .keep, .keep]
  | print n => simp only [manipulateBuffer]; split <;> exact .keep
  | list => exact .keep

theorem selectScript_bufStep (b : ScriptBuffers) (env : FrontendEnv) (buffer : Option UInt32) :
    BufStep b (selectScript b env buffer).1 := by
  simp only [selectScript, ScriptBuffers.add]
  repeat' split
  all_goals first | exact .keep | exact .add _

theorem evalScript_bufStep (fe : DebuggerFrontend) (env : FrontendEnv) (debug : Bool)
    (buffer : Option UInt32) :
    BufStep fe.buffers (fe.evalScript env debug buffer).1.buffers ∧
      (fe.evalScript env debug buffer).1.lastCmd = fe.lastCmd := by
  unfold DebuggerFrontend.evalScript
  split
  · exact ⟨.keep, rfl⟩
  · split
    rename_i heq
    have h := selectScript_bufStep fe.buffers env buffer
    rw [heq] at h
    split <;> exact ⟨h, rfl⟩

/-- `do_actions` of anything but `Load` makes one `BufStep` and keeps the command. -/
theorem doActions_bufStep (fe : DebuggerFrontend) (env : FrontendEnv)
    (hl : ∀ f, fe.lastCmd ≠ .load f) :
    BufStep fe.buffers (fe.doActions env).1.buffers ∧ (fe.doActions env).1.lastCmd = fe.lastCmd := by
  unfold DebuggerFrontend.doActions
  split
  all_goals first
    | exact ⟨.keep, rfl⟩
    | exact evalScript_bufStep fe env _ _
    | exact ⟨manipulateBuffer_bufStep _ _ _, rfl⟩
    | exact absurd ‹_› (hl _)

/-! ### Whole sessions -/

/-- A session step other than parsing a `Load` makes one `BufStep`, and leaves no `Load` to
run. -/
theorem Session.next_bufStep {s s' : Session} {a : SessionAction}
    (hl : ∀ f, s.fe.lastCmd ≠ .load f) (ha : ∀ f, a ≠ .parseArgs (.load f))
    (hn : s.next a = some s') :
    BufStep s.fe.buffers s'.fe.buffers ∧ ∀ f, s'.fe.lastCmd ≠ .load f := by
  cases a <;> simp only [Session.next] at hn <;> split at hn <;> cases hn
  case parseArgs.isFalse cmd _ => exact ⟨.keep, fun f h => ha f (congrArg _ h)⟩
  case doActions.isFalse env _ =>
    obtain ⟨hb, hc⟩ := doActions_bufStep s.fe env hl
    exact ⟨hb, hc ▸ hl⟩
  case finish.isFalse => exact ⟨.keep, hl⟩

/-- Along a run with no `Load`, the store stays valid and its counter goes up by at most one
per step. -/
theorem Session.run_valid {as : List SessionAction} {s s' : Session}
    (hr : s.run as = some s') (hv : s.fe.buffers.Valid) (hl : ∀ f, s.fe.lastCmd ≠ .load f)
    (hload : ∀ f, SessionAction.parseArgs (.load f) ∉ as)
    (hroom : s.fe.buffers.counter.toNat + as.length < 2 ^ 32) :
    s'.fe.buffers.Valid ∧ s'.fe.buffers.counter.toNat ≤ s.fe.buffers.counter.toNat + as.length := by
  induction as generalizing s with
  | nil => cases hr; exact ⟨hv, Nat.le_add_right _ _⟩
  | cons a as ih =>
    rw [List.length_cons] at hroom ⊢
    simp only [Session.run, Option.bind_eq_some] at hr
    obtain ⟨s₁, hn, hr⟩ := hr
    obtain ⟨hb, hl₁⟩ :=
      Session.next_bufStep hl (fun f h => hload f (h ▸ List.mem_cons_self _ _)) hn
    obtain ⟨hv₁, hc₁⟩ := hb.valid hv (by omega)
    obtain ⟨hv', hc'⟩ := ih hr hv₁ hl₁ (fun f h => hload f (List.mem_cons_of_mem _ h)) (by omega)
    exact ⟨hv', by omega⟩

/-! ### What the invariant buys -/

/-- On a valid store, `buffer new` files the editor's text under the counter, which names
no buffer before. -/
theorem manipulateBuffer_new {b : ScriptBuffers} (hv : b.Valid) {env : FrontendEnv}
    {text : String} (he : env.editBuffer none = .ok text) :
    manipulateBuffer b env .new = ((b.add text).1, .newBuffer b.counter) ∧
      b.get b.counter = none ∧ (b.add text).1.get b.counter = some text := by
  refine ⟨by simp only [manipulateBuffer, he, ← add_ret b text], ?_, ?_⟩
  · exact lookup_eq_none hv.ne_counter
  · rw [get_add b hv.ne_counter, if_pos rfl]

/-- On a valid store, an `eval` with no buffer or a missing one runs the editor's text. -/
theorem selectScript_editor {b : ScriptBuffers} (hv : b.Valid) {env : FrontendEnv}
    {text : String} (he : env.editBuffer none = .ok text) {buffer : Option UInt32}
    (hmiss : ∀ n ∈ buffer, b.get n = none) :
    selectScript b env buffer = ((b.add text).1, .ok text) := by
  have hget : (b.add text).1.get (b.add text).2 = some text := by
    rw [add_ret, get_add b hv.ne_counter, if_pos rfl]
  cases buffer with
  | none => simp only [selectScript, he, hget]
  | some n => simp only [selectScript, hmiss n rfl, he, hget]

/-- **Fresh buffers over a session.**  In every session that loads no state file and has
taken fewer than `2 ^ 32 - 1` steps, the store's numbers increase strictly and stay below
the counter; `buffer new` announces a number that names no buffer before and the editor's
text after; and an `eval` of a missing or unnamed buffer runs exactly the editor's text. -/
theorem session_buffers_fresh {as : List SessionAction} {s : Session}
    (hr : Session.init.run as = some s)
    (hload : ∀ f, SessionAction.parseArgs (.load f) ∉ as) (hroom : as.length + 1 < 2 ^ 32) :
    s.fe.buffers.Valid ∧
      ∀ env text, env.editBuffer none = .ok text →
        (∃ n, manipulateBuffer s.fe.buffers env .new = ((s.fe.buffers.add text).1, .newBuffer n) ∧
          s.fe.buffers.get n = none ∧ (s.fe.buffers.add text).1.get n = some text) ∧
        ∀ buffer, (∀ n ∈ buffer, s.fe.buffers.get n = none) →
          selectScript s.fe.buffers env buffer = ((s.fe.buffers.add text).1, .ok text) := by
  have hv := (Session.run_valid hr valid_new nofun hload (by rw [show Session.init.fe.buffers.counter.toNat = 1 from rfl]; omega)).1
  exact ⟨hv, fun env text he =>
    ⟨⟨_, manipulateBuffer_new hv he⟩, fun _ hmiss => selectScript_editor hv he hmiss⟩⟩

/-- `buffer new`, run twice, then an `eval` of buffer `5`, which does not exist and so takes
a third buffer from the editor: the counter stands at `4`, and the invariant and its
consequences hold there. -/
theorem three_buffers_then_fresh :
    let as : List SessionAction := [.parseArgs (.buffer .new), .doActions acceptingEnv,
      .doActions acceptingEnv, .parseArgs (.evaluate false (some 5)), .doActions acceptingEnv]
    ∃ s, Session.init.run as = some s ∧ (∀ f, SessionAction.parseArgs (.load f) ∉ as) ∧
      as.length + 1 < 2 ^ 32 ∧ s.fe.buffers.counter = 4 ∧
      (s.fe.buffers.Valid ∧
        ∀ env text, env.editBuffer none = .ok text →
          (∃ n, manipulateBuffer s.fe.buffers env .new =
              ((s.fe.buffers.add text).1, .newBuffer n) ∧
            s.fe.buffers.get n = none ∧ (s.fe.buffers.add text).1.get n = some text) ∧
          ∀ buffer, (∀ n ∈ buffer, s.fe.buffers.get n = none) →
            selectScript s.fe.buffers env buffer = ((s.fe.buffers.add text).1, .ok text)) := by
  intro as
  have hload : ∀ f, SessionAction.parseArgs (.load f) ∉ as := by simp [as]
  exact ⟨_, rfl, hload, by decide, rfl, @session_buffers_fresh as _ rfl hload (by decide)⟩

end SqDbg
