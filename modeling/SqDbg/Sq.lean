import SqDbg.RustStr

/-!
# What the debugger reads from the Squirrel VM

`sq_common::sq` and the `squirrel2_rs` bindings are not among the sources; their types are
modelled here from how `dbg.rs` and the frontend use them and from the spec's data model.
The game's Squirrel is a 32-bit build, so `SQInteger` is an `i32` and
`SQUnsignedInteger` a `u32`.  Stack levels and slot indices are kept as `ℕ`: a VM has
far fewer than `2 ^ 32` frames, so no level the hook counts to can wrap.
-/

namespace SqDbg

/-- `SQInteger`. -/
abbrev SqInteger := Int

/-- `SQUnsignedInteger`, as a stack level or slot index. -/
abbrev SqUnsignedInteger := Nat

/-- `str::parse::<SQInteger>()`. -/
def parseSqInteger (s : String) : Option SqInteger :=
  Rust.parseInt true (-2 ^ 31) (2 ^ 31 - 1) s

/-- `str::parse::<SQUnsignedInteger>()`. -/
def parseSqUnsignedInteger (s : String) : Option SqUnsignedInteger :=
  (Rust.parseInt false 0 (2 ^ 32 - 1) s).map Int.toNat

/-- A debug event the VM raises: a line reached, a function entered or left. -/
inductive DebugEvent where
  | line (line : SqInteger)
  | fnCall (name : String) (line : Option SqInteger)
  | fnRet (name : String) (line : Option SqInteger)
  deriving DecidableEq, Repr

/-- A variable's value as the VM adapter copies it out: scalars, and tables, classes,
instances (key-value pairs in iteration order) and arrays of further values. -/
inductive DynSqVar where
  | integer (i : SqInteger)
  /-- A float, kept as its bit pattern: nothing here computes with it. -/
  | float (bits : UInt32)
  | bool (b : Bool)
  | string (s : String)
  | table (map : List (DynSqVar × DynSqVar))
  | array (v : List DynSqVar)
  | «class» (map : List (DynSqVar × DynSqVar))
  /-- `Instance(SqInstance { this })`. -/
  | «instance» (this : List (DynSqVar × DynSqVar))
  /-- Closures, userdata, null and the other kinds no path can descend into. -/
  | other
  deriving Repr

/-- A named local at some call level. -/
structure SqLocalVar where
  name : String
  val : DynSqVar
  deriving Repr

/-- One call frame: function name, source file and line when the VM knows them. -/
structure SqStackInfo where
  func : String
  src : Option String
  line : Option SqInteger
  deriving DecidableEq, Repr

end SqDbg
