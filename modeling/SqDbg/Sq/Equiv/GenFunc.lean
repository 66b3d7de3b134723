import SqDbg.Sq.GenFunc

/-!
# `sqfn` binds the arguments in reverse

After `sq_pop(hvm, 1)` the stack ends with the call's arguments `x1, …, xn`, `xn` on top.
Parameter `k` is read from index `-(k + 1)`, so it gets `xs.reverse[k]`, the argument
`x(n-k)`.  `sqfn_binds_reversed` states this for every API, parameter list and stack:
when every argument converts, `func` is called with the conversions of the reversed
arguments; when one does not, `func` is not called, an error is thrown and `-1` returned.
For two or more parameters that is not the call the Squirrel code made:
`sqfn_swaps_arguments` calls a generated `sub(a, b)` with `5, 3` and gets `-2` back.

`sqGet_sqPush` is the round trip of the `SqVar` implementations: for an API whose getters
read back what its pushers push, `sq_get` at the top reads back the value `sq_push` pushed,
a string cut at its first NUL.
-/

namespace SqDbg

variable {α : Type} (api : SqApi α)

/-- The conversion `sq_get` applies, at the parameter's type, to the value it found. -/
def sqConvert : SqVarTy → α → Option SqVal
  | .integer, x => (api.getinteger x).map .integer
  | .string, x => (api.getstring x).map fun p => .string (String.mk (cString p))

/-- Index `-(k + 1)` of a stack ending in `xs` is `xs.reverse[k]`. -/
theorem stackAt_neg (pre xs : List α) {k : Nat} (hk : k < xs.length) :
    stackAt (pre ++ xs) (-(k + 1 : Int)) = xs.reverse[k]? := by
  have habs : (-(k + 1 : Int)).natAbs = k + 1 := by rw [Int.natAbs_neg]; norm_cast
  rw [stackAt, if_pos (show -(k + 1 : Int) < 0 by omega), habs, List.length_append,
    if_pos (show k + 1 ≤ pre.length + xs.length by omega),
    List.getElem?_append_right (by omega), List.getElem?_reverse hk]
  congr 1
  omega

theorem sqGet_toOption (stack : List α) (ty : SqVarTy) (idx : SqInteger) :
    (sqGet api stack ty idx).toOption = (stackAt stack idx).bind (sqConvert api ty) := by
  cases ty <;> cases hs : stackAt stack idx <;>
    simp only [sqGet, sqGetInteger, sqGetString, sqGetWith, hs, Option.none_bind,
      Option.some_bind, sqConvert] <;>
    first | rfl | (cases api.getinteger _ <;> rfl) | (cases api.getstring _ <;> rfl)

theorem getArgs_cons_toOption (stack : List α) (ty : SqVarTy) (tys : List SqVarTy) (k : Nat) :
    (getArgs api stack (ty :: tys) k).toOption =
      (sqGet api stack ty (-(k + 1 : Int))).toOption.bind fun a =>
        (getArgs api stack tys (k + 1)).toOption.map (a :: ·) := by
  simp only [getArgs]
  cases sqGet api stack ty (-(k + 1 : Int)) <;> cases getArgs api stack tys (k + 1) <;> rfl

/-- From parameter `k` on, the parameters get the conversions of the arguments counted
from the top of the stack. -/
theorem getArgs_toOption (pre xs : List α) (tys : List SqVarTy) (k : Nat)
    (h : k + tys.length ≤ xs.length) :
    (getArgs api (pre ++ xs) tys k).toOption =
      (tys.zip (xs.reverse.drop k)).mapM fun p => sqConvert api p.1 p.2 := by
  induction tys generalizing k with
  | nil => rfl
  | cons ty tys ih =>
    have hk : k < xs.reverse.length := by simp only [List.length_cons] at h; simp; omega
    rw [getArgs_cons_toOption, sqGet_toOption, stackAt_neg pre xs (by simpa using hk),
      List.drop_eq_getElem_cons hk, List.zip_cons_cons, List.mapM_cons,
      ih (k + 1) (by simp only [List.length_cons] at h; omega), List.getElem?_eq_getElem hk,
      Option.some_bind]
    cases sqConvert api ty xs.reverse[k] <;>
      cases (tys.zip (xs.reverse.drop (k + 1))).mapM fun p => sqConvert api p.1 p.2 <;> rfl

/-- **`sqfn` binds the arguments in reverse.**  On a stack `pre ++ xs ++ [ud]` with one
argument per parameter: if every argument converts, `sqfn` calls `func` with the
conversions of `xs.reverse`, parameter `k` taking argument `n - k`; if one does not, it
throws an error and returns `-1` on the popped stack, whatever `func` is. -/
theorem sqfn_binds_reversed (tys : List SqVarTy) (func : List SqVal → Option SqVal)
    (pre xs : List α) (ud : α) (hlen : xs.length = tys.length) :
    (∀ args, ((tys.zip xs.reverse).mapM fun p => sqConvert api p.1 p.2) = some args →
      sqfn api tys func (pre ++ xs ++ [ud]) = sqReturn api (pre ++ xs) (func args)) ∧
    (((tys.zip xs.reverse).mapM fun p => sqConvert api p.1 p.2) = none →
      ∃ msg, ∀ func' : List SqVal → Option SqVal,
        sqfn api tys func' (pre ++ xs ++ [ud]) = ⟨pre ++ xs, -1, some msg⟩) := by
  have hargs := getArgs_toOption api pre xs tys 0 (by omega)
  rw [List.drop_zero] at hargs
  have hpop : (pre ++ xs ++ [ud]).dropLast = pre ++ xs := List.dropLast_concat
  refine ⟨fun args hok => ?_, fun hnone => ?_⟩
  · cases hg : getArgs api (pre ++ xs) tys 0 with
    | error p => rw [hg, hok] at hargs; cases hargs
    | ok vs =>
      rw [hg, hok] at hargs
      cases hargs
      simp only [sqfn, hpop, hg]
  · cases hg : getArgs api (pre ++ xs) tys 0 with
    | ok vs => rw [hg, hnone] at hargs; cases hargs
    | error p =>
      exact ⟨p.1 ++ " | problem with argument " ++ toString p.2, fun func' => by
        simp only [sqfn, hpop, hg]⟩

/-! ### Two integer parameters -/

/-- Squirrel values, as far as a call to a generated function needs them. -/
inductive SqObj where
  | integer (i : SqInteger)
  | string (cs : List Char)
  | other
  deriving DecidableEq, Repr

/-- The API on these values: each getter succeeds on its own kind of value only. -/
def sqObjApi : SqApi SqObj where
  getinteger
    | .integer i => some i
    | _ => none
  getstring
    | .string cs => some cs
    | _ => none
  pushinteger := .integer
  pushstring := .string

/-- `sub(a: SQInteger, b: SQInteger) -> SQInteger { a - b }`. -/
def subFunc : List SqVal → Option SqVal
  | [.integer a, .integer b] => some (.integer (a - b))
  | _ => none

/-- Binding `sub`'s two arguments, `5` then `3`, in reverse. -/
theorem sub_binds_reversed :
    [SqObj.integer 5, .integer 3].length = [SqVarTy.integer, .integer].length ∧
    (∀ args, (([SqVarTy.integer, .integer].zip [SqObj.integer 5, .integer 3].reverse).mapM
        fun p => sqConvert sqObjApi p.1 p.2) = some args →
      sqfn sqObjApi [.integer, .integer] subFunc
          ([.other] ++ [.integer 5, .integer 3] ++ [.other]) =
        sqReturn sqObjApi ([.other] ++ [.integer 5, .integer 3]) (subFunc args)) ∧
    ((([SqVarTy.integer, .integer].zip [SqObj.integer 5, .integer 3].reverse).mapM
        fun p => sqConvert sqObjApi p.1 p.2) = none →
      ∃ msg, ∀ func' : List SqVal → Option SqVal,
        sqfn sqObjApi [.integer, .integer] func'
            ([.other] ++ [.integer 5, .integer 3] ++ [.other]) =
          ⟨[.other] ++ [.integer 5, .integer 3], -1, some msg⟩) :=
  ⟨rfl, sqfn_binds_reversed sqObjApi [.integer, .integer] subFunc [.other]
    [.integer 5, .integer 3] .other rfl⟩

/-- **`sub(5, 3)` returns `-2`.**  The Squirrel call `sub(5, 3)` enters `sqfn` with the
stack `this, 5, 3` and the closure's free variable; `a` is read from the top and gets `3`,
`b` gets `5`, and the pushed result is `-2`. -/
theorem sqfn_swaps_arguments :
    sqfn sqObjApi [.integer, .integer] subFunc [.other, .integer 5, .integer 3, .other] =
      ⟨[.other, .integer 5, .integer 3, .integer (-2)], 1, none⟩ :=
  rfl

/-! ### What `sq_push` leaves for `sq_get` -/

/-- The kind of value `sq_get` reads back a value as. -/
def SqVal.ty : SqVal → SqVarTy
  | .integer _ => .integer
  | .string _ => .string

/-- A value after `sq_push` and `sq_get`: a string is cut at its first NUL. -/
def SqVal.cut : SqVal → SqVal
  | .integer i => .integer i
  | .string s => .string (String.mk (cString s.toList))

theorem cString_append_nul (cs : List Char) : cString (cs ++ [Char.ofNat 0]) = cString cs := by
  induction cs with
  | nil => rfl
  | cons c cs ih =>
    by_cases hc : c = Char.ofNat 0 <;> simp_all [cString, List.takeWhile_cons]

theorem cString_idem (cs : List Char) : cString (cString cs) = cString cs :=
  List.takeWhile_idem

theorem stackAt_top (stack : List α) (x : α) : stackAt (stack ++ [x]) (-1) = some x :=
  stackAt_neg stack [x] (k := 0) (by simp)

/-- **`sq_get` reads back what `sq_push` pushed**, for an API whose getters read back what
its pushers push: the value itself, except that a string is cut at its first NUL, since
`sq_push` hands `sq_pushstring` the string with a `'\0'` appended and a length of `-1`,
and `sq_get` copies `strlen` characters.  The value comes back whole exactly when it is
not a string holding a NUL. -/
theorem sqGet_sqPush (hint : ∀ i, api.getinteger (api.pushinteger i) = some i)
    (hstr : ∀ p, api.getstring (api.pushstring p) = some p) (stack : List α) (v : SqVal) :
    sqGet api (sqPush api stack v) v.ty (-1) = .ok v.cut ∧
      (v.cut = v ↔ ∀ s, v = .string s → Char.ofNat 0 ∉ s.toList) := by
  cases v with
  | integer i =>
    refine ⟨?_, by simp [SqVal.cut]⟩
    simp only [sqGet, sqPush, sqPushInteger, sqGetInteger, sqGetWith, stackAt_top,
      Option.some_bind, hint, SqVal.ty, SqVal.cut]
    rfl
  | string s =>
    refine ⟨?_, ?_⟩
    · simp only [sqGet, sqPush, sqPushString, sqGetString, sqGetWith, stackAt_top,
        Option.some_bind, hstr, Option.map_some', cString_append_nul, cString_idem, SqVal.ty,
        SqVal.cut]
      rfl
    · obtain ⟨cs⟩ := s
      simp only [SqVal.cut, cString, String.toList, SqVal.string.injEq, String.ext_iff,
        List.takeWhile_eq_self_iff, decide_eq_true_eq]
      exact ⟨fun h s hs hm => h _ (hs ▸ hm) rfl, fun h x hx hx0 => h ⟨cs⟩ rfl (hx0 ▸ hx)⟩

/-- `"a"` comes back whole through the stack of Squirrel values. -/
theorem push_then_get_roundtrip :
    (∀ i, sqObjApi.getinteger (sqObjApi.pushinteger i) = some i) ∧
      (∀ p, sqObjApi.getstring (sqObjApi.pushstring p) = some p) ∧
      (sqGet sqObjApi (sqPush sqObjApi [] (.string "a")) (SqVal.string "a").ty (-1) =
          .ok (SqVal.string "a").cut ∧
        ((SqVal.string "a").cut = .string "a" ↔
          ∀ s, SqVal.string "a" = .string s → Char.ofNat 0 ∉ s.toList)) :=
  have hint : ∀ i, sqObjApi.getinteger (sqObjApi.pushinteger i) = some i := fun _ => rfl
  have hstr : ∀ p, sqObjApi.getstring (sqObjApi.pushstring p) = some p := fun _ => rfl
  ⟨hint, hstr, sqGet_sqPush sqObjApi hint hstr [] (.string "a")⟩

end SqDbg
