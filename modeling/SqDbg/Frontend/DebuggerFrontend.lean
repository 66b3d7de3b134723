import SqDbg.Frontend.ScriptBuffers
import SqDbg.Frontend.Examine
import SqDbg.Frontend.Breakpoint

/-!
# `DebuggerFrontend`: the commands, `eval_script` and `do_actions`

The frontend keeps the last parsed command, the script buffers and the `during_eval` flag.
`do_actions` carries out the last command: the inspection commands go to `examine`,
`add_breakpoint` or the debugger, the buffer commands to `ScriptBuffers`, and `Evaluate`
to `eval_script`, which picks or creates a buffer, reads the capture list on its first
line, and runs the rest with `execute` or, in debug mode, with `execute_debug`, whose
result a spawned thread waits for.

What the outside world answers (the editor, the debugger's `execute`, `execute_debug`,
`get_locals`, the state file) is a `FrontendEnv`, given afresh to each `do_actions`.  The
types of `dbg::SqDebugger`'s frontend methods are not among the sources; a captured local's
level is taken to be an `SQUnsignedInteger`, like every other level.
-/

namespace SqDbg

/-- `SetCommands`. -/
inductive SetCommands where
  | printfHook (active : Bool)
  deriving DecidableEq, Repr

/-- `BufferCommands`. -/
inductive BufferCommands where
  | new
  | delete (num : UInt32)
  | edit (num : UInt32)
  | print (num : UInt32)
  | list
  deriving DecidableEq, Repr

/-- `Commands`: what `parse_args` stores for `do_actions`. -/
inductive Commands where
  | step
  | «continue»
  | backtrace
  | locals (level : Option UInt32)
  | examine (target : String) (level : Option SqUnsignedInteger) (depth : UInt32)
  | breakpointAdd (spec : String)
  | breakpointEnable (num : Option UInt32)
  | breakpointDisable (num : Option UInt32)
  | breakpointClear (num : Option UInt32)
  | breakpointList
  | evaluate (debug : Bool) (buffer : Option UInt32)
  | buffer (cmd : BufferCommands)
  | trace
  | set (var : SetCommands)
  | save (file : Option String)
  | load (file : Option String)
  | nop
  | exit
  deriving DecidableEq, Repr

/-- `DEFAULT_STATE_FILENAME`. -/
def defaultStateFilename : String := "state.json"

/-- `DebuggerFrontend`. -/
structure DebuggerFrontend where
  lastCmd : Commands
  buffers : ScriptBuffers
  duringEval : Bool

/-- `DebuggerFrontend::new`. -/
def DebuggerFrontend.new : DebuggerFrontend := ⟨.nop, ScriptBuffers.new, false⟩

/-- A captured local: its name and call stack level. -/
abbrev Capture := String × SqUnsignedInteger

/-- What the world answers during one `do_actions`. -/
structure FrontendEnv where
  /-- `edit_buffer(prev)`: the edited text, or the editor's error. -/
  editBuffer : Option String → Except String String
  /-- `dbg.execute(script, capture)`: the evaluation result, or its error. -/
  execute : String → List Capture → Except String String
  /-- `dbg.execute_debug(script, capture)`: `Ok(fut)` or the error. -/
  executeDebug : String → List Capture → Except String Unit
  /-- `dbg.get_locals(level, depth)`. -/
  getLocals : LocalsQuery
  /-- `load(path)`: the buffers of the saved state, or the error. -/
  load : String → Except String ScriptBuffers
  /-- The Unicode tables behind `char::is_numeric`, `is_alphabetic`, `is_whitespace`. -/
  u : Rust.UnicodeTables
  /-- The largest value of a breakpoint's line type. -/
  lineMax : Nat

/-! ### `eval_script` -/

/-- Why `eval_script` stopped, past its guard, before running anything. -/
inductive EvalStop where
  /-- `"failed to open editor: {e}"`. -/
  | editorFailed (e : String)
  /-- `"invalid level specification: {lvl} ({spec})"`. -/
  | invalidLevel (lvl spec : String)
  /-- `"invalid local var specification: {spec}"`. -/
  | invalidSpec (spec : String)
  /-- `"buffer is empty"`. -/
  | bufferEmpty
  /-- A slice or an `unwrap` panicked. -/
  | panic
  deriving DecidableEq, Repr

/-- What `eval_script` did. -/
inductive EvalOut where
  /-- `"failed to evaluate: cannot evaluate during evaluation"`. -/
  | busy
  /-- It stopped before running the script. -/
  | stopped (why : EvalStop)
  /-- `execute` ran the script; its result or error is printed. -/
  | evaluated (script : String) (capture : List Capture) (res : Except String String)
  /-- `execute_debug` accepted the script; a thread waits for its result. -/
  | spawned (script : String) (capture : List Capture)
  /-- `"failed to evaluate: {e}"` from `execute_debug`. -/
  | debugFailed (script : String) (capture : List Capture) (e : String)
  deriving Repr

/-- Whether `eval_script` refused because an evaluation was in progress. -/
def EvalOut.isBusy : EvalOut → Bool
  | .busy => true
  | _ => false

/-- The script to evaluate: buffer `num` if it exists, else a new buffer from the editor,
read back with `get(add(s)).unwrap()`.  The buffers are returned also when `eval_script`
stops here. -/
def selectScript (buffers : ScriptBuffers) (env : FrontendEnv) (buffer : Option UInt32) :
    ScriptBuffers × Except EvalStop String :=
  let fromEditor :=
    match env.editBuffer none with
    | .ok s =>
      let (buffers, num) := buffers.add s
      match buffers.get num with
      | some script => (buffers, .ok script)
      | none => (buffers, .error .panic)
    | .error e => (buffers, .error (.editorFailed e))
  match buffer with
  | some num =>
    match buffers.get num with
    | some script => (buffers, .ok script)
    | none => fromEditor
  | none => fromEditor

/-- One entry `lvl.name` of the capture list. -/
def parseCapture (u : Rust.UnicodeTables) (spec : String) : Except EvalStop Capture :=
  match Rust.split '.' (Rust.trim u spec) with
  | [lvl, name] =>
    if Rust.startsWith (Rust.isAlphabetic u) name then
      match parseSqUnsignedInteger lvl with
      | some l => .ok (name, l)
      | none => .error (.invalidLevel lvl spec)
    else .error (.invalidSpec spec)
  | _ => .error (.invalidSpec spec)

/-- The capture list on the first line: the script run and the captured locals.  A first
line `|a, b|` is cut off the script, whose remaining lines are `collect`ed into one
string, with no separator between them. -/
def splitCaptures (u : Rust.UnicodeTables) (script : String) :
    Except EvalStop (String × List Capture) :=
  match Rust.lines script with
  | [] => .error .bufferEmpty
  | first :: _ =>
    let line := Rust.trim u first
    if !Rust.startsWith (· == '|') line || !Rust.endsWith (· == '|') line then
      .ok (script, [])
    else if line.length < 2 then .error .panic
    else do
      let list := String.mk (line.toList.drop 1).dropLast
      let out ← (Rust.split ',' list).mapM (parseCapture u)
      pure (String.join ((Rust.lines script).drop 1), out)

/-- `DebuggerFrontend::eval_script`. -/
def DebuggerFrontend.evalScript (fe : DebuggerFrontend) (env : FrontendEnv) (debug : Bool)
    (buffer : Option UInt32) : DebuggerFrontend × EvalOut :=
  if fe.duringEval then (fe, .busy) else
  let (buffers, script) := selectScript fe.buffers env buffer
  let fe := { fe with buffers }
  match script.bind (splitCaptures env.u) with
  | .error why => (fe, .stopped why)
  | .ok (script, capture) =>
    let fe := { fe with duringEval := true }
    let out :=
      if !debug then .evaluated script capture (env.execute script capture)
      else match env.executeDebug script capture with
        | .ok () => .spawned script capture
        | .error e => .debugFailed script capture e
    ({ fe with duringEval := false }, out)

/-! ### `manipulate_buffer` -/

/-- What `manipulate_buffer` prints. -/
inductive BufferOut where
  /-- `"new buffer number: {n}"`. -/
  | newBuffer (num : UInt32)
  /-- `"failed to open editor: {e}"`. -/
  | editorFailed (e : String)
  /-- `"no such buffer"`. -/
  | noSuchBuffer
  /-- The buffer's text. -/
  | printed (buf : String)
  /-- The buffer list, `ScriptBuffers.display`. -/
  | listed
  /-- Nothing. -/
  | silent
  deriving DecidableEq, Repr

/-- `{s:<width$}`: `s` followed by spaces up to `width` characters; a longer `s` is written
whole. -/
def leftAlign (width : Nat) (s : String) : String :=
  s ++ String.mk (List.replicate (width - s.length) ' ')

/-- One buffer's line in the list, `{n:<NUM_FIELD$}{} ...` with `NUM_FIELD = 8`: its number,
then its first line, or nothing for an empty buffer. -/
def listEntry (e : UInt32 × String) : String :=
  leftAlign 8 (toString e.1) ++ ((Rust.lines e.2).head?.getD "") ++ " ..."

/-- `impl Display for ScriptBuffers`: what `buffer list` prints (`BufferOut.listed`), a
header and then, each after a `writeln!`, the buffers' lines in store order. -/
def ScriptBuffers.display (b : ScriptBuffers) : String :=
  if b.store.isEmpty then "no buffers available" else
  b.store.foldl (fun out e => out ++ "\n" ++ listEntry e) (leftAlign 8 "number" ++ "content")

/-- `DebuggerFrontend::manipulate_buffer`. -/
def manipulateBuffer (buffers : ScriptBuffers) (env : FrontendEnv) :
    BufferCommands → ScriptBuffers × BufferOut
  | .new =>
    match env.editBuffer none with
    | .ok s => let (buffers, n) := buffers.add s; (buffers, .newBuffer n)
    | .error e => (buffers, .editorFailed e)
  | .delete num => (buffers.delete num, .silent)
  | .edit num =>
    match buffers.get num with
    | some b =>
      match env.editBuffer (some b) with
      | .ok s => (buffers.replace num s, .silent)
      | .error e => (buffers, .editorFailed e)
    | none => (buffers, .noSuchBuffer)
  | .print num =>
    match buffers.get num with
    | some b => (buffers, .printed b)
    | none => (buffers, .noSuchBuffer)
  | .list => (buffers, .listed)

/-! ### `do_actions` -/

/-- What `do_actions` did. -/
inductive DoOut where
  /-- The command went to the debugger alone: step, continue, backtrace, the breakpoint
  commands other than add, trace, set. -/
  | debugger
  /-- `get_locals(level, 0)`'s answer, printed. -/
  | locals (r : Except DbgError (List SqLocalVarWithLvl))
  /-- What `examine` printed. -/
  | examined (out : ExamineOut)
  /-- What `add_breakpoint` did. -/
  | breakpoint (out : AddBreakpointOut)
  /-- What `eval_script` did. -/
  | evaluated (out : EvalOut)
  /-- What `manipulate_buffer` did. -/
  | buffer (out : BufferOut)
  /-- The state was saved to this file. -/
  | saved (file : String)
  /-- The state file was loaded, or `"Failed to load state: {e}"`. -/
  | loaded (r : Except String Unit)
  /-- `Nop`. -/
  | nop
  /-- `std::process::exit(0)`. -/
  | exit

/-- `DebuggerFrontend::do_actions`. -/
def DebuggerFrontend.doActions (fe : DebuggerFrontend) (env : FrontendEnv) :
    DebuggerFrontend × DoOut :=
  match fe.lastCmd with
  | .step | .continue | .backtrace => (fe, .debugger)
  | .locals level => (fe, .locals (env.getLocals (level.map UInt32.toNat) 0))
  | .examine target level depth => (fe, .examined (examine env.getLocals target level depth))
  | .breakpointAdd spec => (fe, .breakpoint (addBreakpoint env.u env.lineMax spec))
  | .breakpointEnable _ | .breakpointDisable _ | .breakpointClear _ | .breakpointList =>
    (fe, .debugger)
  | .evaluate debug buffer =>
    let (fe, out) := fe.evalScript env debug buffer
    (fe, .evaluated out)
  | .buffer cmd =>
    let (buffers, out) := manipulateBuffer fe.buffers env cmd
    ({ fe with buffers }, .buffer out)
  | .trace | .set _ => (fe, .debugger)
  | .load file =>
    match env.load (file.getD defaultStateFilename) with
    | .ok buffers => ({ fe with buffers }, .loaded (.ok ()))
    | .error e => (fe, .loaded (.error e))
  | .save file => (fe, .saved (file.getD defaultStateFilename))
  | .nop => (fe, .nop)
  | .exit => (fe, .exit)

/-- Whether `do_actions` left a thread waiting for a deferred evaluation. -/
def DoOut.spawns : DoOut → Bool
  | .evaluated (.spawned _ _) => true
  | _ => false

/-- Whether `do_actions` ended the process. -/
def DoOut.exits : DoOut → Bool
  | .exit => true
  | _ => false

/-! ### The frontend with its evaluation threads -/

/-- The controller's frontend together with the evaluation threads it spawned that have
not yet produced their result. -/
structure Session where
  fe : DebuggerFrontend
  inFlight : Nat
  exited : Bool

/-- A step of the session: the REPL hands a parsed command to `parse_args` or calls
`do_actions`, or a spawned thread's deferred result is produced. -/
inductive SessionAction where
  | parseArgs (cmd : Commands)
  | doActions (env : FrontendEnv)
  | finish

/-- The session as the REPL starts it. -/
def Session.init : Session := ⟨DebuggerFrontend.new, 0, false⟩

/-- One step; `none` where it cannot be taken. -/
def Session.next (s : Session) : SessionAction → Option Session
  | .parseArgs cmd => if s.exited then none else some { s with fe.lastCmd := cmd }
  | .doActions env =>
    if s.exited then none else
    let (fe, out) := s.fe.doActions env
    some ⟨fe, s.inFlight + if out.spawns then 1 else 0, out.exits⟩
  | .finish => if s.inFlight = 0 then none else some { s with inFlight := s.inFlight - 1 }

/-- A sequence of steps. -/
def Session.run (s : Session) : List SessionAction → Option Session
  | [] => some s
  | a :: as => (s.next a).bind (·.run as)

/-- The sessions some sequence of steps reaches from `init`. -/
inductive Session.Reach : Session → Prop where
  | init : Session.Reach Session.init
  | next {s s' : Session} {a : SessionAction} : Session.Reach s → s.next a = some s' →
      Session.Reach s'

end SqDbg
