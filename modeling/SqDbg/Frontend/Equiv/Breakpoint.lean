import SqDbg.Frontend.Breakpoint
import SqDbg.Equiv.RustStr

/-!
# What `add_breakpoint` adds, and where it panics

Every breakpoint `add_breakpoint` adds has a source file, a function name or a line
(`added_breakpoint_has_field`): the only arm that adds the prototype unchanged is the one
for no segments, which `str::split` leaves only after a `file:<src>` prefix.

The digits guard on a line lets the empty segment through, and its `parse().unwrap()`
then panics: a specification ending in `':'` after a function name, and the empty
specification (which `parse_args` never passes on), panic whatever the line type
(`add_breakpoint_empty_line_panics`).

`addBreakpoint_specText` is the round trip of the format: a breakpoint written as
`[file:<src>:][function][:line]` is read back as itself, for every breakpoint the format
can write (no `':'` in its fields, a line the type holds, and not a function named `file`
with a line but no source file, which reads as a source file).
-/

namespace SqDbg

section

variable (u : Rust.UnicodeTables) (lineMax : Nat)

/-- The arms keep the prototype's source file, and each arm but the one for no segments
sets a function name or a line. -/
theorem matchSpec_add {bpProto bp : SqBreakpoint} {segs : List String}
    (h : matchSpec u lineMax bpProto segs = .add bp) :
    bp.srcFile? = bpProto.srcFile? ∧ (segs = [] ∨ bp.fnName?.isSome ∨ bp.line?.isSome) := by
  match segs, h with
  | [], h => cases h; exact ⟨rfl, .inl rfl⟩
  | [func, line], h =>
    simp only [matchSpec] at h
    split at h
    · split at h <;> cases h
      exact ⟨rfl, .inr (.inr rfl)⟩
    · cases h
  | [seg], h =>
    simp only [matchSpec] at h
    split at h
    · split at h <;> cases h
      exact ⟨rfl, .inr (.inr rfl)⟩
    · split at h <;> cases h
      exact ⟨rfl, .inr (.inl rfl)⟩
  | _ :: _ :: _ :: _, h => cases h

/-- Without a `file:` prefix the prototype is `new()` and no segment is consumed; with
one, the prototype has its source file. -/
theorem fileProto_cases (spec : List String) :
    (fileProto spec = (SqBreakpoint.new, spec)) ∨ (fileProto spec).1.srcFile?.isSome := by
  unfold fileProto
  split
  · exact .inr rfl
  · exact .inl rfl

/-- **An added breakpoint is a predicate.**  Whatever `add_breakpoint` adds has a source
file, a function name or a line set. -/
theorem added_breakpoint_has_field (spec : String) (bp : SqBreakpoint)
    (h : addBreakpoint u lineMax spec = .add bp) :
    bp.srcFile?.isSome ∨ bp.fnName?.isSome ∨ bp.line?.isSome := by
  simp only [addBreakpoint] at h
  obtain ⟨hsrc, hset⟩ := matchSpec_add u lineMax h
  rcases fileProto_cases (Rust.split ':' spec) with hp | hp
  · rw [hp] at hset
    exact .inr (hset.resolve_left (Rust.split_ne_nil ':' spec))
  · exact .inl (hsrc ▸ hp)

end

/-! ### Writing a breakpoint as a specification -/

/-- The segments of the specification `[file:<src>:][function][:line]` that writes `bp`. -/
def specSegments (bp : SqBreakpoint) : List String :=
  (bp.srcFile?.map fun src => ["file", src]).getD [] ++ bp.fnName?.toList ++
    (bp.line?.map toString).toList

/-- The specification that writes `bp`, its segments joined by `':'`. -/
def specText (bp : SqBreakpoint) : String :=
  String.mk (List.intercalate [':'] ((specSegments bp).map String.toList))

section

variable (u : Rust.UnicodeTables) (lineMax : Nat)

theorem parseLine_toString {l : Nat} (hl : l ≤ lineMax) : parseLine lineMax (toString l) = some l := by
  simp only [parseLine, Rust.parseInt_toString]
  rw [if_pos ⟨by omega, by omega⟩]
  rfl

theorem isLine_toString (l : Nat) : isLine (toString l) = true :=
  List.all_eq_true.2 (Rust.digits_toDigits l).1

/-- A function name fails the line guard: it starts with a character that is not numeric,
so not an ASCII digit. -/
theorem isLine_of_isFnName {fn : String} (h : isFnName u fn) : isLine fn = false := by
  simp only [isFnName, Rust.startsWith] at h
  simp only [isLine, List.all_eq_false]
  split at h
  · rename_i c tail hc
    refine ⟨c, hc ▸ List.mem_cons_self c tail, ?_⟩
    simp only [Rust.isNumeric, Bool.not_eq_true', Bool.or_eq_false_iff] at h
    simp [h.1]
  · cases h

/-- The arms read back the function name and the line a specification writes. -/
theorem matchSpec_written (src? fn? : Option String) (line? : Option Nat)
    (hfn : ∀ fn ∈ fn?, isFnName u fn) (hline : ∀ l ∈ line?, l ≤ lineMax) :
    matchSpec u lineMax ⟨src?, none, none⟩ (fn?.toList ++ (line?.map toString).toList) =
      .add ⟨src?, fn?, line?⟩ := by
  cases fn? with
  | none =>
    cases line? with
    | none => rfl
    | some l =>
      simp [matchSpec, isLine_toString, parseLine_toString lineMax (hline l rfl),
        SqBreakpoint.line]
  | some fn =>
    have hf := hfn fn rfl
    cases line? with
    | none =>
      simp [matchSpec, isLine_of_isFnName u hf, hf, SqBreakpoint.fnName]
    | some l =>
      simp [matchSpec, hf, isLine_toString, parseLine_toString lineMax (hline l rfl),
        SqBreakpoint.fnName, SqBreakpoint.line]

/-- The `file:<src>` prefix is read back; without a source file nothing is taken as one,
unless the function is called `file` and a line follows. -/
theorem fileProto_written (src? fn? : Option String) (line? : Option Nat)
    (hfile : src? = none → line?.isSome → fn? ≠ some "file") :
    fileProto (specSegments ⟨src?, fn?, line?⟩) =
      (⟨src?, none, none⟩, fn?.toList ++ (line?.map toString).toList) := by
  cases src? with
  | some src => rfl
  | none =>
    simp only [specSegments, Option.map_none', Option.getD_none, List.nil_append]
    unfold fileProto
    split
    · rename_i src rest h
      cases fn? <;> cases line? <;> simp_all
    · rfl

end

/-- **A breakpoint is read back from its specification.**  For every breakpoint with at
least one field set, whose source file holds no `':'`, whose function name holds no `':'`
and passes the function-name guard, and whose line fits the line type, `add_breakpoint`
adds exactly that breakpoint from the specification `[file:<src>:][function][:line]`.  The
one breakpoint of that kind the format cannot write is a function named `file` with a
line and no source file: `file:<line>` reads as a source file. -/
theorem addBreakpoint_specText (u : Rust.UnicodeTables) (lineMax : Nat) (bp : SqBreakpoint)
    (hset : bp ≠ SqBreakpoint.new)
    (hsrc : ∀ src ∈ bp.srcFile?, ':' ∉ src.toList)
    (hfn : ∀ fn ∈ bp.fnName?, ':' ∉ fn.toList ∧ isFnName u fn)
    (hline : ∀ l ∈ bp.line?, l ≤ lineMax)
    (hfile : bp.srcFile? = none → bp.line?.isSome → bp.fnName? ≠ some "file") :
    addBreakpoint u lineMax (specText bp) = .add bp := by
  obtain ⟨src?, fn?, line?⟩ := bp
  have hne : (specSegments ⟨src?, fn?, line?⟩).map String.toList ≠ [] := by
    intro h
    simp [specSegments] at h
    obtain ⟨h1, h2, h3⟩ := h
    apply hset
    cases src? <;> cases fn? <;> cases line? <;> first | rfl | simp at h1 h2 h3
  have hcolon : ∀ p ∈ (specSegments ⟨src?, fn?, line?⟩).map String.toList, ':' ∉ p := by
    intro p hp
    simp only [specSegments, List.map_append, List.mem_append, List.mem_map] at hp
    rcases hp with (⟨s, hs, rfl⟩ | ⟨s, hs, rfl⟩) | ⟨s, hs, rfl⟩
    · cases src? with
      | none => simp at hs
      | some src =>
        simp only [Option.map_some', Option.getD_some, List.mem_cons, List.not_mem_nil,
          or_false] at hs
        rcases hs with rfl | rfl
        · decide
        · exact hsrc _ rfl
    · cases fn? with
      | none => simp at hs
      | some fn => simp only [Option.toList_some, List.mem_singleton] at hs; exact hs ▸ (hfn fn rfl).1
    · cases line? with
      | none => simp at hs
      | some l =>
        simp only [Option.map_some', Option.toList_some, List.mem_singleton] at hs
        subst hs
        exact fun hm => absurd ((Rust.digits_toDigits l).1 _ hm) (by decide)
  have hid : (fun x : String => String.mk x.toList) = id := rfl
  unfold addBreakpoint specText
  rw [Rust.split_intercalate hne hcolon, List.map_map, Function.comp_def, hid, List.map_id,
    fileProto_written src? fn? line? hfile]
  exact matchSpec_written u lineMax src? fn? line? (fun fn h => (hfn fn h).2) hline

/-- `file:foo.nut:bar:10` is read back as the breakpoint it writes. -/
theorem foo_bar_line_read_back :
    let bp : SqBreakpoint := ⟨some "foo.nut", some "bar", some 10⟩
    bp ≠ SqBreakpoint.new ∧ (∀ src ∈ bp.srcFile?, ':' ∉ src.toList) ∧
      (∀ fn ∈ bp.fnName?, ':' ∉ fn.toList ∧ isFnName Rust.asciiOnly fn) ∧
      (∀ l ∈ bp.line?, l ≤ 2 ^ 31 - 1) ∧
      (bp.srcFile? = none → bp.line?.isSome → bp.fnName? ≠ some "file") ∧
      addBreakpoint Rust.asciiOnly (2 ^ 31 - 1) (specText bp) = .add bp := by
  intro bp
  have h1 : bp ≠ SqBreakpoint.new := by decide
  have h2 : ∀ src ∈ bp.srcFile?, ':' ∉ src.toList := by simp only [bp]; decide
  have h3 : ∀ fn ∈ bp.fnName?, ':' ∉ fn.toList ∧ isFnName Rust.asciiOnly fn := by
    simp only [bp]; decide
  have h4 : ∀ l ∈ bp.line?, l ≤ 2 ^ 31 - 1 := by simp only [bp]; decide
  have h5 : bp.srcFile? = none → bp.line?.isSome → bp.fnName? ≠ some "file" := by decide
  exact ⟨h1, h2, h3, h4, h5, addBreakpoint_specText _ _ bp h1 h2 h3 h4 h5⟩

/-- `"bar"` adds a breakpoint on the function `bar`. -/
theorem bar_breakpoint_named :
    addBreakpoint Rust.asciiOnly (2 ^ 31 - 1) "bar" = .add ⟨none, some "bar", none⟩ ∧
      ((⟨none, some "bar", none⟩ : SqBreakpoint).srcFile?.isSome ∨
        (⟨none, some "bar", none⟩ : SqBreakpoint).fnName?.isSome ∨
        (⟨none, some "bar", none⟩ : SqBreakpoint).line?.isSome) :=
  ⟨rfl, added_breakpoint_has_field Rust.asciiOnly (2 ^ 31 - 1) "bar" _ rfl⟩

example (u : Rust.UnicodeTables) :
    addBreakpoint u (2 ^ 31 - 1) "file:foo.nut:bar:10" =
      .add ⟨some "foo.nut", some "bar", some 10⟩ :=
  rfl

/-- **The empty line panics.**  `"foo:"` splits into `"foo"` and `""`; the empty segment
passes the digits guard and its `parse().unwrap()` panics.  The empty specification is the
single segment `""` and panics the same way, though `parse_args` never hands it over: it
trims the command line before splitting it at `' '`, so the specification, the line's last
token, is never empty.  `"foo:"` and an over-long line number do come through. -/
theorem add_breakpoint_empty_line_panics (u : Rust.UnicodeTables) (lineMax : Nat) :
    addBreakpoint u lineMax "foo:" = .panic ∧ addBreakpoint u lineMax "" = .panic :=
  ⟨rfl, rfl⟩

end SqDbg
