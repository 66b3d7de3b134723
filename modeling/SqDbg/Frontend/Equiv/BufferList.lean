import SqDbg.Frontend.DebuggerFrontend
import SqDbg.Equiv.RustStr

/-!
# The buffer list

`buffer_list_lines`: `buffer list` prints `no buffers available`, or the header
`number  content` and then one line per buffer in store order: only a buffer's first line is
shown, so no text can add or split a line of the list (`lines_display`).  Each line begins
with the buffer's number in a field eight characters wide, and a longer number is not cut
but fills the field with no space after it.  So the leading digits of a line are the
buffer's number exactly when the number has fewer than eight digits or the buffer's first
line does not start with a digit (`listEntry_number`): buffer `12345678` holding `1` is
listed as `123456781 ...`.
-/

namespace SqDbg

open Rust

/-! ### Lines joined by newlines -/

/-- Nonempty pieces with no newline, none ending in `'\r'`, joined by newlines, are read
back as the lines. -/
theorem lines_join {a : List Char} {ls : List (List Char)} (ha : '\n' ∉ a) (hane : a ≠ [])
    (har : a.getLast? ≠ some '\r')
    (hls : ∀ l ∈ ls, '\n' ∉ l ∧ l ≠ [] ∧ l.getLast? ≠ some '\r') :
    lines (String.mk (a ++ (ls.map ('\n' :: ·)).flatten)) = (a :: ls).map String.mk := by
  induction ls generalizing a with
  | nil => simpa using lines_of_not_mem ha hane
  | cons l ls ih =>
    obtain ⟨hl, hlne, hlr⟩ := hls l (List.mem_cons_self _ _)
    rw [List.map_cons, List.flatten_cons, List.cons_append, lines_append_newline ha,
      ih hl hlne hlr fun l' h => hls l' (List.mem_cons_of_mem _ h)]
    simp [stripCr, har]

/-! ### One buffer's line -/

theorem listEntry_toList (e : UInt32 × String) :
    (listEntry e).toList = (toString e.1).toList ++
      List.replicate (8 - (toString e.1).length) ' ' ++ ((lines e.2).head?.getD "").toList ++
        [' ', '.', '.', '.'] := rfl

theorem isDigit_of_mem_toString {n : UInt32} {c : Char} (h : c ∈ (toString n).toList) :
    c.isDigit := (digits_toDigits n.toNat).1 c h

/-- A buffer's line is one nonempty line, ending in `.`. -/
theorem listEntry_line (e : UInt32 × String) :
    '\n' ∉ (listEntry e).toList ∧ (listEntry e).toList ≠ [] ∧
      (listEntry e).toList.getLast? ≠ some '\r' := by
  have hfirst : '\n' ∉ ((lines e.2).head?.getD "").toList := by
    cases h : (lines e.2).head? with
    | none => simp
    | some l => exact newline_not_mem_of_mem_lines (List.mem_of_mem_head? h)
  rw [listEntry_toList]
  refine ⟨?_, by simp, by simp⟩
  simp only [List.mem_append, List.mem_replicate, not_or]
  have hnl : '\n'.isDigit = false := rfl
  exact ⟨⟨⟨fun h => by simp [isDigit_of_mem_toString h] at hnl, by simp⟩, hfirst⟩, by decide⟩

/-- The leading digits of a buffer's line are its number exactly when the number leaves a
space in its field or the first line does not start with a digit. -/
theorem listEntry_number (e : UInt32 × String) :
    (listEntry e).toList.takeWhile Char.isDigit = (toString e.1).toList ↔
      (toString e.1).length < 8 ∨
        ∀ c ∈ ((lines e.2).head?.getD "").toList.head?, c.isDigit = false := by
  rw [listEntry_toList, List.append_assoc, List.append_assoc,
    List.takeWhile_append_of_pos fun _ => isDigit_of_mem_toString, List.append_right_eq_self]
  by_cases h8 : (toString e.1).length < 8
  · obtain ⟨k, hk⟩ : ∃ k, 8 - (toString e.1).length = k + 1 := ⟨_, (Nat.succ_pred_eq_of_pos
      (Nat.sub_pos_of_lt h8)).symm⟩
    simp [hk, List.replicate_succ, h8]
  · rw [Nat.sub_eq_zero_of_le (Nat.le_of_not_lt h8)]
    cases ((lines e.2).head?.getD "").toList with
    | nil => simp [h8]
    | cons c cs => cases hc : c.isDigit <;> simp [List.takeWhile_cons, hc, h8]

/-- An eight-digit number runs into the buffer's first line. -/
example : listEntry (12345678, "1\nreturn 1") = "123456781 ..." := by decide

/-! ### The whole list -/

theorem display_toList (l : List (UInt32 × String)) (init : String) :
    (l.foldl (fun out e => out ++ "\n" ++ listEntry e) init).toList =
      init.toList ++ (l.map fun e => '\n' :: (listEntry e).toList).flatten := by
  induction l generalizing init with
  | nil => simp
  | cons e l ih =>
    rw [List.foldl_cons, ih]
    simp [String.toList]

/-- The list is its header and one line per buffer, in store order. -/
theorem lines_display (b : ScriptBuffers) :
    lines b.display = if b.store = [] then ["no buffers available"]
      else "number  content" :: b.store.map listEntry := by
  by_cases hb : b.store = []
  · simp only [ScriptBuffers.display, hb, List.isEmpty_nil, if_true]
    decide
  · have hls : ∀ l ∈ b.store.map fun e => (listEntry e).toList,
        '\n' ∉ l ∧ l ≠ [] ∧ l.getLast? ≠ some '\r' := fun l hl => by
      obtain ⟨e, -, rfl⟩ := List.mem_map.1 hl
      exact listEntry_line e
    have hjoin := lines_join
      (by decide : '\n' ∉ (leftAlign 8 "number" ++ "content").toList) (by decide) (by decide) hls
    simp only [List.map_map, Function.comp_def] at hjoin
    have hd : b.display = String.mk ((leftAlign 8 "number" ++ "content").toList ++
        (b.store.map fun e => '\n' :: (listEntry e).toList).flatten) := by
      have hne : b.store.isEmpty = false := by simpa using hb
      simp only [ScriptBuffers.display, hne, Bool.false_eq_true, if_false]
      exact String.ext (display_toList _ _)
    rw [hd, hjoin, if_neg hb, List.map_cons, List.map_map]
    exact congrArg₂ List.cons (by decide) rfl

/-- **The buffer list.**  `buffer list` prints its header and then one line per buffer, in
store order, whatever the buffers hold; and the leading digits of a buffer's line are its
number exactly when the number has fewer than eight digits or the buffer's first line does
not start with a digit. -/
theorem buffer_list_lines (b : ScriptBuffers) :
    lines b.display = (if b.store = [] then ["no buffers available"]
      else "number  content" :: b.store.map listEntry) ∧
    ∀ e ∈ b.store, ((listEntry e).toList.takeWhile Char.isDigit = (toString e.1).toList ↔
      (toString e.1).length < 8 ∨
        ∀ c ∈ ((lines e.2).head?.getD "").toList.head?, c.isDigit = false) :=
  ⟨lines_display b, fun e _ => listEntry_number e⟩

end SqDbg
