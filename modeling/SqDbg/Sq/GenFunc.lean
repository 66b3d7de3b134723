import SqDbg.Sq

/-!
# `sq_gen_func!`: the Squirrel wrapper of a Rust function

For `fn name(a0: T0, …, a(n-1): T(n-1)) -> R`, the macro generates `sqfn`, which the VM
calls with its stack holding `this`, the call's arguments and then the closure's free
variable.  `sqfn` pops that free variable, reads parameter `k` with `<Tk as
SqVar>::sq_get(vm, -(k + 1))`, throws and returns `-1` at the first that fails to convert,
and otherwise calls `func`, pushes its result (if it has one) and returns `1`, or `0`.

The Squirrel API (`sq_getinteger`, `sq_getstring`, `sq_pushinteger`, `sq_pushstring`) is
not among the sources: it is a `SqApi` on a stack of values of any type `α`, indexed as
`SqVar::sq_get`'s documentation says (`-1` is the top, `0` the bottom).  The parameter
types with an `SqVar` implementation are `SQInteger` and `String`.
-/

namespace SqDbg

/-- The calls into the Squirrel API that the `SqVar` implementations make. -/
structure SqApi (α : Type) where
  /-- `sq_getinteger` on a value: the integer, or failure. -/
  getinteger : α → Option SqInteger
  /-- `sq_getstring` on a value: the characters at the pointer it returns, or failure. -/
  getstring : α → Option (List Char)
  /-- The value `sq_pushinteger` pushes. -/
  pushinteger : SqInteger → α
  /-- The value `sq_pushstring(ptr, -1)` pushes, given the string `strlen` finds at `ptr`. -/
  pushstring : List Char → α

variable {α : Type} (api : SqApi α)

/-- The value at a stack index: `-1` is the top, `0` the bottom. -/
def stackAt (stack : List α) (idx : SqInteger) : Option α :=
  if idx < 0 then
    if idx.natAbs ≤ stack.length then stack[stack.length - idx.natAbs]? else none
  else stack[idx.toNat]?

/-- What `strlen` sees: the characters before the first NUL. -/
def cString (cs : List Char) : List Char :=
  cs.takeWhile (· ≠ Char.ofNat 0)

/-- The body the two `sq_get`s share: read the value at `idx` with the API's getter, or
fail with `"Failed to get {what} at idx {idx}"`. -/
def sqGetWith {β : Type} (get : α → Option β) (what : String) (stack : List α)
    (idx : SqInteger) : Except String β :=
  match (stackAt stack idx).bind get with
  | some v => .ok v
  | none => .error ("Failed to get " ++ what ++ " at idx " ++ toString idx)

/-- `<SQInteger as SqVar>::sq_get`. -/
def sqGetInteger : List α → SqInteger → Except String SqInteger :=
  sqGetWith api.getinteger "integer"

/-- `<String as SqVar>::sq_get`: the characters up to the terminating NUL. -/
def sqGetString : List α → SqInteger → Except String String :=
  sqGetWith (fun x => (api.getstring x).map fun p => String.mk (cString p)) "string"

/-- `<SQInteger as SqVar>::sq_push`. -/
def sqPushInteger (stack : List α) (i : SqInteger) : List α :=
  stack ++ [api.pushinteger i]

/-- `<String as SqVar>::sq_push`: push a `'\0'`, then `sq_pushstring(ptr, -1)`, which
takes the string up to its first NUL. -/
def sqPushString (stack : List α) (s : String) : List α :=
  stack ++ [api.pushstring (cString (s.toList ++ [Char.ofNat 0]))]

/-- A parameter or result type with an `SqVar` implementation. -/
inductive SqVarTy where
  | integer
  | string
  deriving DecidableEq, Repr

/-- A value of such a type. -/
inductive SqVal where
  | integer (i : SqInteger)
  | string (s : String)
  deriving DecidableEq, Repr

/-- `sq_get` at the parameter's type. -/
def sqGet (stack : List α) : SqVarTy → SqInteger → Except String SqVal
  | .integer, idx => (sqGetInteger api stack idx).map .integer
  | .string, idx => (sqGetString api stack idx).map .string

/-- `sq_push` at the result's type. -/
def sqPush (stack : List α) : SqVal → List α
  | .integer i => sqPushInteger api stack i
  | .string s => sqPushString api stack s

/-- The `$( let $arg = … )*` block from parameter `k` on: parameter `k` is read from
index `-(k + 1)`, and the first that fails ends it with its error and index. -/
def getArgs (stack : List α) : List SqVarTy → Nat → Except (String × Nat) (List SqVal)
  | [], _ => .ok []
  | ty :: tys, k =>
    match sqGet api stack ty (-(k + 1 : Int)) with
    | .ok a => (getArgs stack tys (k + 1)).map (a :: ·)
    | .error e => .error (e, k)

/-- What `sqfn` leaves: the stack, its return value, and the error it threw. -/
structure SqCall (α : Type) where
  stack : List α
  ret : SqInteger
  thrown : Option String

/-- The end of `sqfn`: push the result and return `1`, or return `0` for a function
without one. -/
def sqReturn (stack : List α) : Option SqVal → SqCall α
  | some r => ⟨sqPush api stack r, 1, none⟩
  | none => ⟨stack, 0, none⟩

/-- `sqfn` for a function with parameter types `tys`; `func` gives the function's result,
`none` for a function without a return type. -/
def sqfn (tys : List SqVarTy) (func : List SqVal → Option SqVal) (stack : List α) :
    SqCall α :=
  let stack := stack.dropLast
  match getArgs api stack tys 0 with
  | .error (e, k) => ⟨stack, -1, some (e ++ " | problem with argument " ++ toString k)⟩
  | .ok args => sqReturn api stack (func args)

end SqDbg
