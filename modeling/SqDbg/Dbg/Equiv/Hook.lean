import SqDbg.Dbg.Hook

/-!
# The hook's inspection replies are exact enumerations

For every shape of paused stack (`VmStack`), `hook_inspection_replies` says what the hook
sends for `Backtrace`, `Locals(Some l)` and `Locals(None)`: the frames of levels `1 ..= n`
where `n + 1` is the first level without one; the slots of level `l` up to the first that
fails, tagged `l`; and, for `None`, those per-level lists for `l = 1, 2, …` up to the first
level whose slot `0` fails.  `get_locals` turns exactly the empty list into an error.

`Enumerates f s xs` is the spec of one `while let` loop; it determines `xs`
(`Enumerates.unique`), and each loop is shown to build it by induction along the loop's own
recursion.
-/

namespace SqDbg

/-- `xs` is `f s, f (s + 1), …` up to the first index at which `f` fails. -/
def Enumerates {α : Type} (f : Nat → Option α) (s : Nat) (xs : List α) : Prop :=
  (∀ i (h : i < xs.length), f (s + i) = some xs[i]) ∧ f (s + xs.length) = none

namespace Enumerates

variable {α : Type} {f : Nat → Option α}

@[simp] theorem nil_iff (s : Nat) : Enumerates f s [] ↔ f s = none := by
  simp [Enumerates]

@[simp] theorem cons_iff (s : Nat) (x : α) (xs : List α) :
    Enumerates f s (x :: xs) ↔ f s = some x ∧ Enumerates f (s + 1) xs := by
  constructor
  · rintro ⟨hall, hend⟩
    refine ⟨by simpa using hall 0 (by simp), fun i hi => ?_, ?_⟩
    · simpa [Nat.add_assoc, Nat.add_comm 1 i] using hall (i + 1) (by simpa using hi)
    · simpa [Nat.add_assoc, Nat.add_comm 1] using hend
  · rintro ⟨h0, hall, hend⟩
    refine ⟨fun i hi => ?_, by simpa [Nat.add_assoc, Nat.add_comm 1] using hend⟩
    cases i with
    | zero => simpa using h0
    | succ i => simpa [Nat.add_assoc, Nat.add_comm 1 i] using hall i (by simpa using hi)

/-- An enumeration is determined by `f` and its start. -/
theorem unique {s : Nat} {xs ys : List α} (hx : Enumerates f s xs)
    (hy : Enumerates f s ys) : xs = ys := by
  induction xs generalizing s ys with
  | nil => cases ys <;> simp_all
  | cons x xs ih =>
    cases ys with
    | nil => simp_all
    | cons y ys =>
      rw [cons_iff] at hx hy
      exact List.cons_eq_cons.2 ⟨by simpa [hx.1] using hy.1, ih hx.2 hy.2⟩

end Enumerates

/-- A `Locals(None)` list: from level `lvl` on, each level whose slot `0` answers
contributes its slots tagged with the level, until the first level whose slot `0` fails. -/
inductive LevelsFrom (getLocal : Nat → Nat → Option SqLocalVar) :
    Nat → List SqLocalVarWithLvl → Prop where
  | stop {lvl : Nat} : getLocal lvl 0 = none → LevelsFrom getLocal lvl []
  | level {lvl : Nat} {x : SqLocalVar} {xs : List SqLocalVar} {rest : List SqLocalVarWithLvl} :
      Enumerates (getLocal lvl) 0 (x :: xs) → LevelsFrom getLocal (lvl + 1) rest →
      LevelsFrom getLocal lvl ((x :: xs).map (⟨·, lvl⟩) ++ rest)

namespace VmStack

variable (vm : VmStack)

theorem backtraceLoop_spec (lvl : Nat) (bt : List SqStackInfo) :
    ∃ xs, vm.backtraceLoop lvl bt = bt ++ xs ∧ Enumerates vm.getStackInfo lvl xs := by
  induction lvl, bt using VmStack.backtraceLoop.induct vm with
  | case1 lvl bt info h ih =>
    obtain ⟨xs, hxs, hen⟩ := ih
    exact ⟨info :: xs, by simp [vm.backtraceLoop_of_some bt h, hxs], by simp [h, hen]⟩
  | case2 lvl bt h => exact ⟨[], by simp [vm.backtraceLoop_of_none bt h], by simpa using h⟩

theorem slotLoop_spec (lvl idx : Nat) (v : List SqLocalVarWithLvl) :
    ∃ xs, vm.slotLoop lvl idx v = v ++ xs.map (⟨·, lvl⟩) ∧
      Enumerates (vm.getLocal lvl) idx xs := by
  induction idx, v using VmStack.slotLoop.induct vm lvl with
  | case1 idx v loc h ih =>
    obtain ⟨xs, hxs, hen⟩ := ih
    exact ⟨loc :: xs, by simp [vm.slotLoop_of_some v h, hxs], by simp [h, hen]⟩
  | case2 idx v h => exact ⟨[], by simp [vm.slotLoop_of_none v h], by simpa using h⟩

/-- One pass of the outer loop: slot `0` and the slots after it. -/
theorem level_spec (lvl : Nat) (v : List SqLocalVarWithLvl) {loc : SqLocalVar}
    (h : vm.getLocal lvl 0 = some loc) :
    ∃ xs, vm.slotLoop lvl 1 (v ++ [⟨loc, lvl⟩]) = v ++ (loc :: xs).map (⟨·, lvl⟩) ∧
      Enumerates (vm.getLocal lvl) 0 (loc :: xs) := by
  obtain ⟨xs, hxs, hen⟩ := vm.slotLoop_spec lvl 1 (v ++ [⟨loc, lvl⟩])
  exact ⟨xs, by simp [hxs], by simp [h, hen]⟩

theorem levelLoop_some_spec (l : Nat) (v : List SqLocalVarWithLvl) :
    ∃ xs, vm.levelLoop (some l) l v = v ++ xs.map (⟨·, l⟩) ∧
      Enumerates (vm.getLocal l) 0 xs := by
  cases h : vm.getLocal l 0 with
  | none => exact ⟨[], by simp [vm.levelLoop_of_none v h], by simpa using h⟩
  | some loc =>
    obtain ⟨xs, hxs, hen⟩ := vm.level_spec l v h
    exact ⟨loc :: xs, by simp [vm.levelLoop_of_some v h, hxs], hen⟩

theorem levelLoop_none_spec (lvl : Nat) (v : List SqLocalVarWithLvl) :
    ∃ w, vm.levelLoop none lvl v = v ++ w ∧ LevelsFrom vm.getLocal lvl w := by
  induction lvl, v using VmStack.levelLoop.induct vm none with
  | case1 lvl v loc h hs => simp at hs
  | case2 lvl v loc h v' _ ih =>
    obtain ⟨w, hw, hlev⟩ := ih
    obtain ⟨xs, hxs, hen⟩ := vm.level_spec lvl v h
    refine ⟨(loc :: xs).map (⟨·, lvl⟩) ++ w, ?_, .level hen hlev⟩
    unfold v' at hw
    simp only [vm.levelLoop_of_some v h, Option.isSome_none, Bool.false_eq_true, ↓reduceIte]
    rw [hw, hxs, List.append_assoc]
  | case3 lvl v h => exact ⟨[], by simp [vm.levelLoop_of_none v h], .stop h⟩

end VmStack

/-- **The hook's inspection replies.**  For every paused stack: the `Backtrace` reply
enumerates the frames from level `1`; the `Locals(Some l)` reply lists level `l`'s slots
from `0`, each tagged `l`; the `Locals(None)` reply concatenates the levels from `1` up to
the first whose slot `0` fails; each `Locals` reply is `None` exactly when that list is
empty, and `get_locals` fails exactly then, returning the list unchanged otherwise. -/
theorem hook_inspection_replies (vm : VmStack) :
    (∃ bt, hookAnswer vm .backtrace = some (.backtrace bt) ∧
      Enumerates vm.getStackInfo 1 bt) ∧
    (∀ l, ∃ xs, Enumerates (vm.getLocal l) 0 xs ∧
      hookAnswer vm (.locals (some l)) =
        some (.locals (if xs.isEmpty then none else some (xs.map (⟨·, l⟩))))) ∧
    (∃ w, LevelsFrom vm.getLocal 1 w ∧
      hookAnswer vm (.locals none) = some (.locals (if w.isEmpty then none else some w))) ∧
    (∀ lvl w, getLocalsRecv lvl (.ok (.locals (if w.isEmpty then none else some w))) =
      if w.isEmpty then
        .error (match lvl with
          | some l => .noLocalsAtLevel l
          | none => .noLocalsAtAllLevels)
      else .ok w) := by
  refine ⟨?_, fun l => ?_, ?_, fun lvl w => ?_⟩
  · obtain ⟨xs, hxs, hen⟩ := vm.backtraceLoop_spec 1 []
    exact ⟨xs, by simp [hookAnswer, hxs], hen⟩
  · obtain ⟨xs, hxs, hen⟩ := vm.levelLoop_some_spec l []
    refine ⟨xs, hen, ?_⟩
    cases xs <;> simp_all [hookAnswer]
  · obtain ⟨w, hw, hlev⟩ := vm.levelLoop_none_spec 1 []
    rw [List.nil_append] at hw
    exact ⟨w, hlev, by simp only [hookAnswer, Option.getD_none]; rw [hw]⟩
  · cases w <;> cases lvl <;> rfl

end SqDbg
