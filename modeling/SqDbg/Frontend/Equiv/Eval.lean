import SqDbg.Frontend.DebuggerFrontend

/-!
# The evaluation guard never holds a second evaluation back

`eval_script` sets `during_eval` just before it runs the script and clears it before it
returns, on the controller thread, with nothing in between that reads it.  So in every
session the flag is clear whenever a command is handled (`eval_guard_never_fires`), and
the guard at the top of `eval_script` never refuses.  A debug-mode evaluation, whose
result a spawned thread is still waiting for when `eval_script` returns, therefore does not
stop the next `Evaluate`: `second_evaluation_in_flight` runs two debug evaluations of
buffer `1` and reaches a session with both in flight.
-/

namespace SqDbg

/-! ### The flag over one command -/

/-- Past the guard, `eval_script` clears the flag and does not answer `busy`. -/
theorem evalScript_clear (fe : DebuggerFrontend) (env : FrontendEnv) (debug : Bool)
    (buffer : Option UInt32) (h : fe.duringEval = false) :
    (fe.evalScript env debug buffer).1.duringEval = false ∧
      (fe.evalScript env debug buffer).2.isBusy = false := by
  unfold DebuggerFrontend.evalScript
  simp only [h, Bool.false_eq_true, if_false]
  split
  · exact ⟨rfl, rfl⟩
  · refine ⟨rfl, ?_⟩
    split
    · rfl
    · split <;> rfl

theorem doActions_duringEval (fe : DebuggerFrontend) (env : FrontendEnv)
    (h : fe.duringEval = false) : (fe.doActions env).1.duringEval = false := by
  unfold DebuggerFrontend.doActions
  split <;> first | exact h | exact (evalScript_clear fe env _ _ h).1 | (split <;> exact h)

/-! ### The flag over whole sessions -/

theorem Session.next_duringEval {s s' : Session} {a : SessionAction}
    (h : s.fe.duringEval = false) (hn : s.next a = some s') : s'.fe.duringEval = false := by
  -- Only `do_actions` touches the frontend; the other steps keep it or change `last_cmd`.
  cases a <;> simp only [Session.next] at hn <;> split at hn <;> cases hn
  case doActions.isFalse env _ => exact doActions_duringEval s.fe env h
  all_goals exact h

/-- **The evaluation guard never fires.**  In every session the REPL can reach,
`during_eval` is clear, so `eval_script` never refuses an evaluation as already in
progress. -/
theorem eval_guard_never_fires (s : Session) (hs : s.Reach) :
    s.fe.duringEval = false ∧
      ∀ env debug buffer, (s.fe.evalScript env debug buffer).2.isBusy = false := by
  have hclear : s.fe.duringEval = false := by
    induction hs with
    | init => rfl
    | next _ hn ih => exact Session.next_duringEval ih hn
  exact ⟨hclear, fun env debug buffer => (evalScript_clear s.fe env debug buffer hclear).2⟩

/-- An editor that returns `x`, and a debugger that accepts every script. -/
def acceptingEnv : FrontendEnv where
  editBuffer _ := .ok "x"
  execute _ _ := .ok ""
  executeDebug _ _ := .ok ()
  getLocals _ _ := .ok []
  load _ := .error "no state file"
  u := Rust.asciiOnly
  lineMax := 2 ^ 31 - 1

/-- While a debug-mode `Evaluate` still has its result outstanding, the guard is open. -/
theorem guard_open_with_evaluation_in_flight :
    ∃ s : Session, Session.init.run [.parseArgs (.evaluate true none),
        .doActions acceptingEnv] = some s ∧ s.inFlight = 1 ∧ s.Reach ∧
      (s.fe.duringEval = false ∧
        ∀ env debug buffer, (s.fe.evalScript env debug buffer).2.isBusy = false) := by
  have h1 := Session.Reach.next (a := .parseArgs (.evaluate true none)) .init rfl
  have h2 := Session.Reach.next (a := .doActions acceptingEnv) h1 rfl
  exact ⟨_, rfl, rfl, h2, eval_guard_never_fires _ h2⟩

/-! ### Two evaluations in flight -/

/-- **A second evaluation while the first is in flight.**  A debug-mode `Evaluate` of a
new buffer leaves its result to a spawned thread and returns with `during_eval` clear; a
second debug-mode `Evaluate`, of buffer `1`, is then accepted and run as well, and both
results are outstanding. -/
theorem second_evaluation_in_flight :
    ∃ s, Session.init.run [.parseArgs (.evaluate true none), .doActions acceptingEnv,
      .parseArgs (.evaluate true (some 1)), .doActions acceptingEnv] = some s ∧
      s.inFlight = 2 :=
  ⟨_, rfl, rfl⟩

end SqDbg
