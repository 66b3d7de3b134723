import SqDbg.Dbg.Hook

/-!
# `DebuggerFrontend::examine`: a local found by its dotted path

`examine` splits its argument at `'.'`.  A first segment that parses as a level selects
the stack level and the next one names the local; the segments after the local go to
`match_local_path`, which descends one container per segment: into a table, class or
instance by key (the segment as a string key, or as an integer key when it parses as an
`SQInteger`), into an array by a non-negative index.  The depth asked of `get_locals`
grows by the number of segments after the local; `depth` is a `u32` and its `+=` wraps,
as in a release build.
-/

namespace SqDbg

/-- `matches!(k, DynSqVar::Integer(i) if *i == idx)`. -/
def DynSqVar.isIntKey (idx : SqInteger) : DynSqVar → Bool
  | .integer i => i == idx
  | _ => false

/-- `matches!(k, DynSqVar::String(s) if s == key)`. -/
def DynSqVar.isStrKey (key : String) : DynSqVar → Bool
  | .string s => s == key
  | _ => false

/-- The `child` that `match_local_path` computes for the segment `key`, given what `key`
parses to as an `SQInteger`. -/
def localChild (key : String) (index : Option SqInteger) : DynSqVar → Option DynSqVar
  | .table map | .class map | .instance map =>
    (match index with
      | some idx =>
        map.find? fun (e : DynSqVar × DynSqVar) => e.1.isIntKey idx || e.1.isStrKey key
      | none => map.find? fun (e : DynSqVar × DynSqVar) => e.1.isStrKey key).map Prod.snd
  | .array v =>
    match index with
    | some idx => if 0 ≤ idx then v.get? idx.toNat else none
    | none => none
  | _ => none

/-- `match_local_path`: descend from `root` along `path`, failing on an empty path and as
soon as a segment selects nothing. -/
def matchLocalPath : List String → DynSqVar → Option DynSqVar
  | [], _ => none
  | key :: path, root =>
    match localChild key (parseSqInteger key) root, path with
    | some child, [] => some child
    | some next, _ :: _ => matchLocalPath path next
    | none, _ => none

/-- What `examine` prints. -/
inductive ExamineOut where
  /-- `"Local path not specified, only call stack level"`. -/
  | onlyLevel
  /-- `"{label}: {typ:?} = {val}"`, labelled with the local's name when no segment follows
  it and with the whole path otherwise. -/
  | value (label : String) (val : DynSqVar)
  /-- `"failed to match path {path}"`. -/
  | failedMatch (path : String)
  /-- `"failed to get locals: {e}"`. -/
  | failedLocals (e : DbgError)

/-- `SqDebugger::get_locals(level, depth)` as the frontend calls it. -/
abbrev LocalsQuery :=
  Option SqUnsignedInteger → UInt32 → Except DbgError (List SqLocalVarWithLvl)

/-- The loop over the locals: the first local named `rootName` that has the path `segs`
is printed; with none, the match failed. -/
def examineFind (path rootName : String) (segs : List String) :
    List SqLocalVarWithLvl → ExamineOut
  | [] => .failedMatch path
  | l :: locs =>
    if rootName = l.var.name then
      match segs with
      | [] => .value l.var.name l.var.val
      | _ :: _ =>
        match matchLocalPath segs l.var.val with
        | some target => .value path target
        | none => examineFind path rootName segs locs
    else examineFind path rootName segs locs

/-- `examine` once the local's name `rootName` and the segments `segs` after it are known. -/
def examineRoot (getLocals : LocalsQuery) (path : String) (level : Option SqUnsignedInteger)
    (depth : UInt32) (rootName : String) (segs : List String) : ExamineOut :=
  let depth := if segs.length > 0 then depth + UInt32.ofNat segs.length else depth
  match getLocals level depth with
  | .ok locs => examineFind path rootName segs locs
  | .error e => .failedLocals e

/-- `DebuggerFrontend::examine`. -/
def examine (getLocals : LocalsQuery) (path : String) (level : Option SqUnsignedInteger)
    (depth : UInt32) : ExamineOut :=
  match h : Rust.split '.' path with
  | [] => absurd h (Rust.split_ne_nil '.' path)
  | first :: segs =>
    match parseSqUnsignedInteger first with
    | some lvl =>
      match segs with
      | [] => .onlyLevel
      | root :: rest => examineRoot getLocals path (some lvl) depth root rest
    | none => examineRoot getLocals path level depth first segs

end SqDbg
