import Mathlib.Logic.Function.Basic
import Mathlib.Data.List.Basic
import Mathlib.Algebra.Group.Nat.Basic

/-!
# `ScriptBuffers`: numbered script texts

The frontend keeps the scripts the user edits in a `ScriptBuffers`: a list of
`(number, text)` in insertion order and a `u32` counter handing out numbers.  The counter
is a `UInt32`, whose `+ 1` wraps at `u32::MAX` as the release build's does (a debug build
panics there instead).
-/

namespace SqDbg

/-- `ScriptBuffers`. -/
structure ScriptBuffers where
  store : List (UInt32 × String)
  counter : UInt32

namespace ScriptBuffers

/-- `ScriptBuffers::new`. -/
def new : ScriptBuffers := ⟨[], 1⟩

/-- `add`: push `(counter, buf)`, bump the counter, return `counter - 1`. -/
def add (b : ScriptBuffers) (buf : String) : ScriptBuffers × UInt32 :=
  let b' : ScriptBuffers := ⟨b.store ++ [(b.counter, buf)], b.counter + 1⟩
  (b', b'.counter - 1)

/-- `get`: the text of the first buffer with this number. -/
def get (b : ScriptBuffers) (number : UInt32) : Option String :=
  (b.store.find? (·.1 == number)).map (·.2)

/-- The first entry with this number, replaced. -/
def replaceFirst (number : UInt32) (buf : String) :
    List (UInt32 × String) → List (UInt32 × String)
  | [] => []
  | e :: es => if e.1 = number then (number, buf) :: es else e :: replaceFirst number buf es

/-- `replace`: overwrite the first buffer with this number, if there is one. -/
def replace (b : ScriptBuffers) (number : UInt32) (buf : String) : ScriptBuffers :=
  { b with store := replaceFirst number buf b.store }

/-- `delete`: drop every buffer with this number. -/
def delete (b : ScriptBuffers) (number : UInt32) : ScriptBuffers :=
  { b with store := b.store.filter (·.1 != number) }

end ScriptBuffers

/-- A call on a `ScriptBuffers`. -/
inductive BufferOp where
  | add (buf : String)
  | get (number : UInt32)
  | replace (number : UInt32) (buf : String)
  | delete (number : UInt32)

/-- What a call returns. -/
inductive BufferRet where
  | added (number : UInt32)
  | got (buf : Option String)
  | done

/-- The number an `add` returned. -/
def BufferRet.added? : BufferRet → Option UInt32
  | .added n => some n
  | _ => none

/-- Whether a call is an `add`. -/
def BufferOp.isAdd : BufferOp → Bool
  | .add _ => true
  | _ => false

namespace ScriptBuffers

/-- One call. -/
def apply (b : ScriptBuffers) : BufferOp → ScriptBuffers × BufferRet
  | .add buf => let (b', n) := b.add buf; (b', .added n)
  | .get n => (b, .got (b.get n))
  | .replace n buf => (b.replace n buf, .done)
  | .delete n => (b.delete n, .done)

/-- A sequence of calls, with what each returned. -/
def runOps (b : ScriptBuffers) : List BufferOp → ScriptBuffers × List BufferRet
  | [] => (b, [])
  | op :: ops =>
    let (b₁, r) := b.apply op
    let (b₂, rs) := b₁.runOps ops
    (b₂, r :: rs)

end ScriptBuffers

end SqDbg
