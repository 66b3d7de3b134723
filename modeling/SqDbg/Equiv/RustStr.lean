import SqDbg.RustStr
import Mathlib.Data.Nat.Digits

/-!
# What the `str` functions make of text written in a format

The frontend reads its commands with `str::split`, `str::lines`, `str::trim` and `parse`.
Text written by joining fields with a separator and numbers in decimal is taken apart
again exactly: `split` undoes a join whose fields hold no separator (`split_intercalate`,
through `List.splitOn_intercalate`), `lines` peels off a first line (`lines_append_newline`)
and never yields a newline (`newline_not_mem_of_mem_lines`), `trim` leaves text that
neither starts nor ends with whitespace alone (`trim_eq_self`), and `parse` reads a decimal
numeral back as its value (`parseInt_toString`).
-/

namespace SqDbg.Rust

/-! ### `split` -/

/-- The splitter is `List.splitOn`. -/
theorem splitChars_eq_splitOn (sep : Char) (cs : List Char) :
    splitChars sep cs = cs.splitOn sep := by
  induction cs with
  | nil => rfl
  | cons c cs ih =>
    obtain ⟨p, ps, h⟩ := List.exists_cons_of_ne_nil (List.splitOnP_ne_nil (· == sep) cs)
    simp only [List.splitOn] at ih h ⊢
    rw [splitChars, ih, h, List.splitOnP_cons, h]
    by_cases hc : c = sep <;> simp [hc]

theorem split_intercalate {sep : Char} {ps : List (List Char)} (hne : ps ≠ [])
    (h : ∀ p ∈ ps, sep ∉ p) :
    split sep (String.mk (List.intercalate [sep] ps)) = ps.map String.mk := by
  simp only [split, String.toList, splitChars_eq_splitOn, List.splitOn_intercalate ps sep h hne]

/-- Two fields joined by the separator. -/
theorem split_append_cons {sep : Char} {a b : List Char} (ha : sep ∉ a) (hb : sep ∉ b) :
    split sep (String.mk (a ++ sep :: b)) = [String.mk a, String.mk b] := by
  have h : split sep (String.mk (List.intercalate [sep] [a, b])) = [a, b].map String.mk :=
    split_intercalate (by simp) (by simp [ha, hb])
  simpa [List.intercalate] using h

/-- A character of a join is in the separator or in a field. -/
theorem mem_intercalate {α : Type} {sep : List α} {ps : List (List α)} {c : α}
    (h : c ∈ List.intercalate sep ps) : c ∈ sep ∨ ∃ p ∈ ps, c ∈ p := by
  obtain ⟨q, hq, hc⟩ := List.mem_flatten.1 h
  suffices hs : q = sep ∨ q ∈ ps by
    rcases hs with rfl | hq'
    · exact .inl hc
    · exact .inr ⟨q, hq', hc⟩
  clear h hc
  induction ps with
  | nil => simp at hq
  | cons p ps ih =>
    cases ps with
    | nil => simp_all
    | cons p' ps =>
      simp only [List.intersperse_cons₂, List.mem_cons] at hq ih
      rcases hq with rfl | rfl | hq
      · simp
      · simp
      · rcases ih hq with h | h | h <;> simp [h]

/-- No piece holds the separator. -/
theorem not_mem_of_mem_splitChars {sep : Char} {cs p : List Char}
    (h : p ∈ splitChars sep cs) : sep ∉ p := by
  induction cs generalizing p with
  | nil => simp_all [splitChars]
  | cons c cs ih =>
    obtain ⟨q, qs, hq⟩ := List.exists_cons_of_ne_nil (splitChars_ne_nil sep cs)
    have hrest : ∀ p' ∈ qs, sep ∉ p' := fun p' hp' => ih (by simp [hq, hp'])
    simp only [splitChars, hq] at h
    by_cases hc : c = sep
    · simp only [hc, if_true, List.mem_cons] at h
      rcases h with rfl | rfl | h
      · simp
      · exact ih (by simp [hq])
      · exact hrest p h
    · simp only [hc, if_false, List.mem_cons] at h
      rcases h with rfl | h
      · simp only [List.mem_cons, not_or]
        exact ⟨Ne.symm hc, ih (by simp [hq])⟩
      · exact hrest p h

/-! ### `lines` -/

theorem splitChars_append_newline {a : List Char} (ha : '\n' ∉ a) (b : List Char) :
    splitChars '\n' (a ++ '\n' :: b) = a :: splitChars '\n' b := by
  simp only [splitChars_eq_splitOn, List.splitOn]
  exact List.splitOnP_first _ _ (fun x hx => by simpa using ne_of_mem_of_not_mem hx ha) _
    (by simp) _

/-- A first line ended by `'\n'` comes off the front. -/
theorem lines_append_newline {a : List Char} (ha : '\n' ∉ a) (b : List Char) :
    lines (String.mk (a ++ '\n' :: b)) = String.mk (stripCr a) :: lines (String.mk b) := by
  obtain ⟨last, init, h⟩ := List.exists_cons_of_ne_nil
    (List.reverse_ne_nil_iff.2 (splitChars_ne_nil '\n' b))
  simp [lines, String.toList, splitChars_append_newline ha, h]

theorem splitChars_of_not_mem {sep : Char} {a : List Char} (h : sep ∉ a) :
    splitChars sep a = [a] := by
  rw [splitChars_eq_splitOn, List.splitOn, List.splitOnP_eq_single]
  intro x hx
  simpa using ne_of_mem_of_not_mem hx h

/-- A nonempty text with no newline is one line. -/
theorem lines_of_not_mem {a : List Char} (h : '\n' ∉ a) (hne : a ≠ []) :
    lines (String.mk a) = [String.mk a] := by
  simp [lines, String.toList, splitChars_of_not_mem h, hne]

theorem newline_not_mem_stripCr {l : List Char} (h : '\n' ∉ l) : '\n' ∉ stripCr l := by
  unfold stripCr
  split
  · exact fun hm => h ((List.dropLast_sublist l).subset hm)
  · exact h

/-- A line never holds a newline. -/
theorem newline_not_mem_of_mem_lines {s l : String} (h : l ∈ lines s) : '\n' ∉ l.toList := by
  unfold lines at h
  split at h
  · simp at h
  · rename_i last init hs
    have hmem : ∀ p, p ∈ last :: init → '\n' ∉ p := fun p hp =>
      not_mem_of_mem_splitChars (List.mem_reverse.1 (hs ▸ hp))
    simp only [List.map_append, List.mem_append, List.mem_map, List.mem_reverse] at h
    rcases h with ⟨p, ⟨q, hq, rfl⟩, rfl⟩ | h
    · exact newline_not_mem_stripCr (hmem q (List.mem_cons_of_mem _ hq))
    · split at h
      · simp at h
      · obtain ⟨p, hp, rfl⟩ := h
        exact hmem p (by simp_all)

/-! ### `trim` -/

/-- An ASCII digit is not whitespace. -/
theorem isWhitespace_of_isDigit (u : UnicodeTables) {c : Char} (h : c.isDigit) :
    isWhitespace u c = false := by
  have hd : 48 ≤ c.val.toNat ∧ c.val.toNat ≤ 57 := by
    simpa [Char.isDigit, UInt32.le_def, BitVec.le_def] using h
  have hsp : c ≠ ' ' := fun h' => by subst h'; exact absurd h (by decide)
  have hv : c.val.toNat = c.val.toBitVec.toNat := rfl
  simp only [isWhitespace, Bool.or_eq_false_iff, beq_eq_false_iff_ne, ne_eq, hsp,
    not_false_eq_true, true_and, Bool.and_eq_false_imp, decide_eq_true_eq, UInt32.le_def,
    BitVec.le_def, UInt32.lt_def, BitVec.lt_def, decide_eq_false_iff_not]
  exact ⟨fun _ => by show ¬ _ ≤ 13; omega, fun h' => absurd h' (by show ¬ 127 < _; omega)⟩

theorem dropWhile_eq_self_of_head {p : Char → Bool} {l : List Char}
    (h : ∀ c ∈ l.head?, p c = false) : l.dropWhile p = l := by
  cases l with
  | nil => rfl
  | cons c l => simp_all

/-- Text that neither starts nor ends with whitespace is its own trim. -/
theorem trim_eq_self (u : UnicodeTables) {cs : List Char}
    (hhead : ∀ c ∈ cs.head?, isWhitespace u c = false)
    (hlast : ∀ c ∈ cs.getLast?, isWhitespace u c = false) :
    trim u (String.mk cs) = String.mk cs := by
  simp only [trim, String.toList, dropWhile_eq_self_of_head hhead,
    dropWhile_eq_self_of_head (by rwa [List.head?_reverse]), List.reverse_reverse]

/-! ### `parse` of a decimal numeral -/

theorem digitChar_spec : ∀ d : Fin 10,
    (Nat.digitChar d).isDigit ∧ (Nat.digitChar d).toNat - '0'.toNat = d := by
  decide

theorem digitChar_mod (n : Nat) :
    (Nat.digitChar (n % 10)).isDigit ∧ (Nat.digitChar (n % 10)).toNat - '0'.toNat = n % 10 :=
  digitChar_spec ⟨n % 10, Nat.mod_lt n (by decide)⟩

/-- The value `digits` accumulates. -/
def digitsValue (acc : Nat) (cs : List Char) : Nat :=
  cs.foldl (fun n c => 10 * n + (c.toNat - '0'.toNat)) acc

/-- With enough fuel, `toDigitsCore` writes `n` in front of `ds`: reading on accumulates
`n` and then `ds`, and every character it adds is a digit. -/
theorem toDigitsCore_spec (fuel n : Nat) (ds : List Char) (hn : n < fuel) :
    digitsValue 0 (Nat.toDigitsCore 10 fuel n ds) = digitsValue n ds ∧
      ∀ c ∈ Nat.toDigitsCore 10 fuel n ds, c ∈ ds ∨ c.isDigit := by
  induction fuel generalizing n ds with
  | zero => omega
  | succ fuel ih =>
    obtain ⟨hdig, hval⟩ := digitChar_mod n
    simp only [Nat.toDigitsCore]
    split
    · refine ⟨?_, fun c hc => ?_⟩
      · simp only [digitsValue, List.foldl_cons, hval]
        congr 1
        omega
      · rcases List.mem_cons.1 hc with rfl | hc
        · exact .inr hdig
        · exact .inl hc
    · have hlt : n / 10 < fuel := by omega
      obtain ⟨hv, hc⟩ := ih (n / 10) _ hlt
      refine ⟨by rw [hv]; simp only [digitsValue, List.foldl_cons, hval]; congr 1; omega,
        fun c hm => ?_⟩
      rcases hc c hm with hc | hc
      · rcases List.mem_cons.1 hc with rfl | hc
        · exact .inr hdig
        · exact .inl hc
      · exact .inr hc

theorem toDigitsCore_ne_nil (fuel n : Nat) (ds : List Char) (h : ds ≠ [] ∨ 0 < fuel) :
    Nat.toDigitsCore 10 fuel n ds ≠ [] := by
  induction fuel generalizing n ds with
  | zero => simpa [Nat.toDigitsCore] using h
  | succ fuel ih =>
    simp only [Nat.toDigitsCore]
    split
    · simp
    · exact ih _ _ (.inl (by simp))

theorem toDigits_ne_nil (n : Nat) : Nat.toDigits 10 n ≠ [] :=
  toDigitsCore_ne_nil _ _ _ (.inr (Nat.succ_pos n))

/-- The characters of a decimal numeral are digits, and `digits` reads its value back. -/
theorem digits_toDigits (n : Nat) :
    (∀ c ∈ Nat.toDigits 10 n, c.isDigit) ∧ digits (Nat.toDigits 10 n) = some n := by
  obtain ⟨hv, hc⟩ := toDigitsCore_spec (n + 1) n [] (by omega)
  have hall : ∀ c ∈ Nat.toDigits 10 n, c.isDigit := fun c hm => by
    simpa using hc c hm
  refine ⟨hall, ?_⟩
  unfold digits
  rw [if_pos ⟨toDigits_ne_nil n, List.all_eq_true.2 hall⟩]
  exact congrArg some hv

/-- `parse` reads `n`'s decimal numeral back, when the type holds `n`. -/
theorem parseInt_toString (signed : Bool) (lo hi : Int) (n : Nat) :
    parseInt signed lo hi (toString n) = if lo ≤ n ∧ n ≤ hi then some (n : Int) else none := by
  obtain ⟨hall, hd⟩ := digits_toDigits n
  obtain ⟨c, cs, hcs⟩ := List.exists_cons_of_ne_nil (toDigits_ne_nil n)
  have hc : c.isDigit := hall c (by simp [hcs])
  have hplus : c ≠ '+' := fun h => by subst h; exact absurd hc (by decide)
  have hminus : c ≠ '-' := fun h => by subst h; exact absurd hc (by decide)
  have hstr : (toString n).toList = c :: cs := hcs
  unfold parseInt
  rw [hstr]
  -- Only the last arm can match: a numeral starts with a digit.
  split <;> first | (rw [← hcs, hd]; rfl) | simp_all

end SqDbg.Rust
