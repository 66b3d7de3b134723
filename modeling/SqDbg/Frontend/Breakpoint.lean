import SqDbg.RustStr

/-!
# `DebuggerFrontend::add_breakpoint`: parsing a breakpoint specification

The specification is split at `':'`.  A leading `file:<src>` sets the source file; what
remains is matched, in the order of the source's `match` arms, as `func:line`, `line`,
`func` or nothing, each arm behind its guard: a function name must not start with a
numeric character, a line must consist of ASCII digits only.  A guarded line is then
`parse`d and `unwrap`ped, which panics on the empty string and on a number the line type
does not hold.

`dbg::SqBreakpoint` and its store are not among the sources: the record is modelled by
the three fields the builder calls here set, and the line type by its largest value
`lineMax`.
-/

namespace SqDbg

/-- `dbg::SqBreakpoint`, as far as `add_breakpoint` fills it in. -/
structure SqBreakpoint where
  srcFile? : Option String
  fnName? : Option String
  line? : Option Nat
  deriving DecidableEq, Repr

namespace SqBreakpoint

/-- `SqBreakpoint::new`: no predicate set. -/
def new : SqBreakpoint := ⟨none, none, none⟩

/-- The builder `src_file`. -/
def srcFile (bp : SqBreakpoint) (src : String) : SqBreakpoint := { bp with srcFile? := some src }

/-- The builder `fn_name`. -/
def fnName (bp : SqBreakpoint) (name : String) : SqBreakpoint := { bp with fnName? := some name }

/-- The builder `line`. -/
def line (bp : SqBreakpoint) (l : Nat) : SqBreakpoint := { bp with line? := some l }

end SqBreakpoint

/-- What `add_breakpoint` does. -/
inductive AddBreakpointOut where
  /-- `"Invalid breakpoint format"`, and nothing is added. -/
  | invalidFormat
  /-- `dbg.breakpoints().add(bp)`. -/
  | add (bp : SqBreakpoint)
  /-- A `parse().unwrap()` failed. -/
  | panic
  deriving DecidableEq, Repr

section

variable (u : Rust.UnicodeTables) (lineMax : Nat)

/-- `line.parse()` into the line type. -/
def parseLine (line : String) : Option Nat :=
  (Rust.parseInt false 0 lineMax line).map Int.toNat

/-- The guard on a function name: `func.starts_with(|c: char| !c.is_numeric())`. -/
def isFnName (func : String) : Bool :=
  Rust.startsWith (fun c => !Rust.isNumeric u c) func

/-- The guard on a line: `line.chars().all(|c| c.is_ascii_digit())`. -/
def isLine (line : String) : Bool :=
  line.toList.all Char.isDigit

/-- The `file:<src>` prefix: the prototype and the segments left after it. -/
def fileProto (spec : List String) : SqBreakpoint × List String :=
  match spec with
  | "file" :: src :: rest => (SqBreakpoint.new.srcFile src, rest)
  | _ => (SqBreakpoint.new, spec)

/-- The `match` on the remaining segments, arm by arm. -/
def matchSpec (bpProto : SqBreakpoint) : List String → AddBreakpointOut
  | [func, line] =>
    if isFnName u func && isLine line then
      match parseLine lineMax line with
      | some l => .add ((bpProto.fnName func).line l)
      | none => .panic
    else .invalidFormat
  | [seg] =>
    if isLine seg then
      match parseLine lineMax seg with
      | some l => .add (bpProto.line l)
      | none => .panic
    else if isFnName u seg then .add (bpProto.fnName seg)
    else .invalidFormat
  | [] => .add bpProto
  | _ => .invalidFormat

/-- `DebuggerFrontend::add_breakpoint`. -/
def addBreakpoint (spec : String) : AddBreakpointOut :=
  let (bpProto, spec) := fileProto (Rust.split ':' spec)
  matchSpec u lineMax bpProto spec

end

end SqDbg
