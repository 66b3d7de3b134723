import SqDbg.Sq
import Mathlib.Order.Basic

/-!
# `sq_common::dbg`: messages, replies and the hook's inspection loops

The data the controller and the debug hook exchange, the two loops with which the hook
answers `Backtrace` and `Locals` from the paused VM, and the way each facade call turns
what it receives into its result.  The VM handle the hook is given is `VmStack`: what
`get_stack_info(level)` and `get_local(level, idx)` answer at that moment, with the
bounds past which they fail carried as fields, so that the hook's `while let` loops
terminate by construction.
-/

namespace SqDbg

/-- `ExecState`: the flag both threads read. -/
inductive ExecState where
  | running
  | halted
  deriving DecidableEq, Repr

/-- `DebugMsg`: a command from the controller to the hook. -/
inductive DebugMsg where
  | step
  | backtrace
  | locals (lvl : Option SqUnsignedInteger)
  deriving DecidableEq, Repr

/-- `EventWithSrc`. -/
structure EventWithSrc where
  event : DebugEvent
  src : Option String
  deriving DecidableEq, Repr

/-- `SqLocalVarWithLvl`: a local annotated with its level. -/
structure SqLocalVarWithLvl where
  var : SqLocalVar
  lvl : SqUnsignedInteger
  deriving Repr

/-- `DebugResp`: what the hook sends back over the rendezvous channel. -/
inductive DebugResp where
  | event (e : EventWithSrc)
  | backtrace (bt : List SqStackInfo)
  | locals (loc : Option (List SqLocalVarWithLvl))
  deriving Repr

/-- The paused VM as the hook's `vm` handle answers it.  Only finitely many levels have a
frame or a slot `0`, and every level finitely many slots. -/
structure VmStack where
  getStackInfo : SqUnsignedInteger → Option SqStackInfo
  getLocal : SqUnsignedInteger → SqUnsignedInteger → Option SqLocalVar
  /-- A level from which on no frame and no slot `0` answers. -/
  depth : Nat
  getStackInfo_ge : ∀ lvl, depth ≤ lvl → getStackInfo lvl = none
  getLocal_ge : ∀ lvl, depth ≤ lvl → getLocal lvl 0 = none
  /-- For each level, a slot from which on no slot answers. -/
  slots : SqUnsignedInteger → Nat
  getLocal_slots : ∀ lvl idx, slots lvl ≤ idx → getLocal lvl idx = none

namespace VmStack

variable (vm : VmStack)

theorem lt_depth_of_getStackInfo {lvl : Nat} {info : SqStackInfo}
    (h : vm.getStackInfo lvl = some info) : lvl < vm.depth :=
  Nat.lt_of_not_le fun hle => by simp [vm.getStackInfo_ge lvl hle] at h

theorem lt_depth_of_getLocal {lvl : Nat} {loc : SqLocalVar}
    (h : vm.getLocal lvl 0 = some loc) : lvl < vm.depth :=
  Nat.lt_of_not_le fun hle => by simp [vm.getLocal_ge lvl hle] at h

theorem lt_slots_of_getLocal {lvl idx : Nat} {loc : SqLocalVar}
    (h : vm.getLocal lvl idx = some loc) : idx < vm.slots lvl :=
  Nat.lt_of_not_le fun hle => by simp [vm.getLocal_slots lvl idx hle] at h

/-- The backtrace loop: `while let Ok(info) = vm.get_stack_info(lvl) { bt.push(info);
lvl += 1; }`. -/
def backtraceLoop (lvl : SqUnsignedInteger) (bt : List SqStackInfo) : List SqStackInfo :=
  match h : vm.getStackInfo lvl with
  | some info => backtraceLoop (lvl + 1) (bt ++ [info])
  | none => bt
termination_by vm.depth - lvl
decreasing_by have := vm.lt_depth_of_getStackInfo h; omega

theorem backtraceLoop_of_some {lvl : Nat} {info : SqStackInfo} (bt : List SqStackInfo)
    (h : vm.getStackInfo lvl = some info) :
    vm.backtraceLoop lvl bt = vm.backtraceLoop (lvl + 1) (bt ++ [info]) := by
  rw [backtraceLoop]; split <;> simp_all

theorem backtraceLoop_of_none {lvl : Nat} (bt : List SqStackInfo)
    (h : vm.getStackInfo lvl = none) : vm.backtraceLoop lvl bt = bt := by
  rw [backtraceLoop]; split <;> simp_all

/-- The inner locals loop: `while let Ok(loc) = vm.get_local(lvl, idx) { v.push(..);
idx += 1; }`. -/
def slotLoop (lvl idx : SqUnsignedInteger) (v : List SqLocalVarWithLvl) :
    List SqLocalVarWithLvl :=
  match h : vm.getLocal lvl idx with
  | some loc => slotLoop lvl (idx + 1) (v ++ [⟨loc, lvl⟩])
  | none => v
termination_by vm.slots lvl - idx
decreasing_by have := vm.lt_slots_of_getLocal h; omega

theorem slotLoop_of_some {lvl idx : Nat} {loc : SqLocalVar} (v : List SqLocalVarWithLvl)
    (h : vm.getLocal lvl idx = some loc) :
    vm.slotLoop lvl idx v = vm.slotLoop lvl (idx + 1) (v ++ [⟨loc, lvl⟩]) := by
  rw [slotLoop]; split <;> simp_all

theorem slotLoop_of_none {lvl idx : Nat} (v : List SqLocalVarWithLvl)
    (h : vm.getLocal lvl idx = none) : vm.slotLoop lvl idx v = v := by
  rw [slotLoop]; split <;> simp_all

/-- The outer locals loop: while slot `0` of `lvl` answers, push it and the slots after
it, then stop if a level was asked for, else go on to `lvl + 1`. -/
def levelLoop (lvlOpt : Option SqUnsignedInteger) (lvl : SqUnsignedInteger)
    (v : List SqLocalVarWithLvl) : List SqLocalVarWithLvl :=
  match h : vm.getLocal lvl 0 with
  | some loc =>
    let v := vm.slotLoop lvl 1 (v ++ [⟨loc, lvl⟩])
    if lvlOpt.isSome then v else levelLoop lvlOpt (lvl + 1) v
  | none => v
termination_by vm.depth - lvl
decreasing_by have := vm.lt_depth_of_getLocal h; omega

theorem levelLoop_of_some {lvlOpt : Option Nat} {lvl : Nat} {loc : SqLocalVar}
    (v : List SqLocalVarWithLvl) (h : vm.getLocal lvl 0 = some loc) :
    vm.levelLoop lvlOpt lvl v =
      if lvlOpt.isSome then vm.slotLoop lvl 1 (v ++ [⟨loc, lvl⟩])
      else vm.levelLoop lvlOpt (lvl + 1) (vm.slotLoop lvl 1 (v ++ [⟨loc, lvl⟩])) := by
  rw [levelLoop]; split <;> simp_all

theorem levelLoop_of_none {lvlOpt : Option Nat} {lvl : Nat} (v : List SqLocalVarWithLvl)
    (h : vm.getLocal lvl 0 = none) : vm.levelLoop lvlOpt lvl v = v := by
  rw [levelLoop]; split <;> simp_all

end VmStack

/-- The hook's reply to a command it takes from the channel; `Step` has none, it ends the
polling loop instead. -/
def hookAnswer (vm : VmStack) : DebugMsg → Option DebugResp
  | .step => none
  | .backtrace => some (.backtrace (vm.backtraceLoop 1 []))
  | .locals lvlOpt =>
    let v := vm.levelLoop lvlOpt (lvlOpt.getD 1) []
    some (.locals (if v.isEmpty then none else some v))

/-! ### What a facade call makes of the response it receives -/

/-- `mpsc::RecvTimeoutError`. -/
inductive RecvTimeoutError where
  | timeout
  | disconnected
  deriving DecidableEq, Repr

/-- The facade's errors, one per `bail!`. -/
inductive DbgError where
  /-- `"{r:?}: expected {what}"`: a response of the wrong variant. -/
  | expected (r : DebugResp) (what : String)
  /-- `"no locals at level {lvl}"`. -/
  | noLocalsAtLevel (lvl : SqUnsignedInteger)
  /-- `"no locals at all levels"`. -/
  | noLocalsAtAllLevels
  /-- `"{e}"`: the receive timed out or the hook is gone. -/
  | recv (e : RecvTimeoutError)
  deriving Repr

/-- The `match` every receiving call makes: the payload of the variant `sel` picks out,
or the "expected" error naming what was wanted. -/
def expectResp {α : Type} (what : String) (sel : DebugResp → Option α) :
    Except RecvTimeoutError DebugResp → Except DbgError α
  | .ok r => match sel r with
    | some a => .ok a
    | none => .error (.expected r what)
  | .error e => .error (.recv e)

/-- The event a response carries. -/
def DebugResp.event? : DebugResp → Option EventWithSrc
  | .event e => some e
  | _ => none

/-- The frames a response carries. -/
def DebugResp.backtrace? : DebugResp → Option (List SqStackInfo)
  | .backtrace bt => some bt
  | _ => none

/-- The locals a response carries. -/
def DebugResp.locals? : DebugResp → Option (Option (List SqLocalVarWithLvl))
  | .locals loc => some loc
  | _ => none

@[simp] theorem DebugResp.event?_event (e : EventWithSrc) :
    (DebugResp.event e).event? = some e := rfl
@[simp] theorem DebugResp.event?_backtrace (bt : List SqStackInfo) :
    (DebugResp.backtrace bt).event? = none := rfl
@[simp] theorem DebugResp.event?_locals (loc : Option (List SqLocalVarWithLvl)) :
    (DebugResp.locals loc).event? = none := rfl

/-- `SqDebugger::step` after its receive. -/
def stepRecv (r : Except RecvTimeoutError DebugResp) : Except DbgError EventWithSrc :=
  expectResp "event" DebugResp.event? r

/-- `SqDebugger::halt` after its receive (made only when it found `Running` and was not
told `no_recv`). -/
def haltRecv (r : Except RecvTimeoutError DebugResp) :
    Except DbgError (Option EventWithSrc) :=
  (expectResp "event" DebugResp.event? r).map some

/-- `SqDebugger::get_backtrace` after its receive. -/
def getBacktraceRecv (r : Except RecvTimeoutError DebugResp) :
    Except DbgError (List SqStackInfo) :=
  expectResp "backtrace" DebugResp.backtrace? r

/-- `SqDebugger::get_locals` after its receive: `Locals(None)` becomes an error naming
the level asked for. -/
def getLocalsRecv (lvl : Option SqUnsignedInteger) (r : Except RecvTimeoutError DebugResp) :
    Except DbgError (List SqLocalVarWithLvl) :=
  (expectResp "locals" DebugResp.locals? r).bind fun
    | some loc => .ok loc
    | none => .error (match lvl with
      | some l => .noLocalsAtLevel l
      | none => .noLocalsAtAllLevels)

end SqDbg
