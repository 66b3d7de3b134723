import Mathlib.Data.List.Basic
import Mathlib.Algebra.Group.Nat.Basic
import Mathlib.Algebra.Group.Int

/-!
# The parts of Rust's `str` and `char` the debugger calls

The frontend takes commands apart with `str::split`, `str::trim`, `str::lines`,
`str::starts_with` and `str::parse`, so their behaviour on odd input (empty pieces, a
trailing newline, a sign, an overflowing number) decides what the debugger does there.
Each definition below follows the standard library's implementation, by structural
recursion over the characters so that it can be evaluated.  Above ASCII,
`char::is_numeric`, `is_alphabetic` and `is_whitespace` consult Unicode tables that are
not part of this repository; they are the fields of `UnicodeTables`, and every ASCII
character is classified without them.
-/

namespace SqDbg.Rust

/-- The Unicode property tables `core::unicode` consults for characters above ASCII. -/
structure UnicodeTables where
  /-- General categories `Nd`, `Nl` and `No` (`unicode::N`). -/
  numeric : Char → Bool
  /-- The `Alphabetic` property. -/
  alphabetic : Char → Bool
  /-- The `White_Space` property. -/
  whiteSpace : Char → Bool

/-- Tables that give no character above ASCII any of the three properties. -/
def asciiOnly : UnicodeTables := ⟨fun _ => false, fun _ => false, fun _ => false⟩

variable (u : UnicodeTables)

/-- `char::is_numeric`. -/
def isNumeric (c : Char) : Bool :=
  c.isDigit || (0x7f < c.val && u.numeric c)

/-- `char::is_alphabetic`. -/
def isAlphabetic (c : Char) : Bool :=
  c.isAlpha || (0x7f < c.val && u.alphabetic c)

/-- `char::is_whitespace`: the space, `'\t' ..= '\r'`, and `White_Space` above ASCII. -/
def isWhitespace (c : Char) : Bool :=
  c == ' ' || (0x09 ≤ c.val && c.val ≤ 0x0d) || (0x7f < c.val && u.whiteSpace c)

/-- `str::trim`. -/
def trim (s : String) : String :=
  String.mk ((s.toList.dropWhile (isWhitespace u)).reverse.dropWhile (isWhitespace u)).reverse

/-- `str::starts_with` with a `char` predicate, which is false on the empty string. -/
def startsWith (p : Char → Bool) (s : String) : Bool :=
  match s.toList with
  | c :: _ => p c
  | [] => false

/-- `str::ends_with` with a `char` predicate, which is false on the empty string. -/
def endsWith (p : Char → Bool) (s : String) : Bool :=
  match s.toList.getLast? with
  | some c => p c
  | none => false

/-- The pieces of a character list between the separators, empty pieces included. -/
def splitChars (sep : Char) : List Char → List (List Char)
  | [] => [[]]
  | c :: cs =>
    match splitChars sep cs with
    | p :: ps => if c = sep then [] :: p :: ps else (c :: p) :: ps
    | [] => [[c]]

/-- `str::split` on a `char`: never empty, and `""` splits into `[""]`. -/
def split (sep : Char) (s : String) : List String :=
  (splitChars sep s.toList).map String.mk

theorem splitChars_ne_nil (sep : Char) (cs : List Char) : splitChars sep cs ≠ [] := by
  cases cs with
  | nil => simp [splitChars]
  | cons c cs => simp only [splitChars]; split <;> (try split) <;> simp

theorem split_ne_nil (sep : Char) (s : String) : split sep s ≠ [] := by
  simpa [split] using splitChars_ne_nil sep s.toList

/-- A line that ended in `'\n'` loses one `'\r'` before it. -/
def stripCr (l : List Char) : List Char :=
  if l.getLast? = some '\r' then l.dropLast else l

/-- `str::lines`: the pieces between `'\n'`s, each that ended in `'\n'` without its
`'\r'`, and no empty piece after a final `'\n'` (so `""` has no lines at all). -/
def lines (s : String) : List String :=
  match (splitChars '\n' s.toList).reverse with
  | [] => []
  | last :: init =>
    (init.reverse.map stripCr ++ if last = [] then [] else [last]).map String.mk

/-- The value of a nonempty run of ASCII digits. -/
def digits (cs : List Char) : Option Nat :=
  if cs ≠ [] ∧ cs.all Char.isDigit then
    some (cs.foldl (fun n c => 10 * n + (c.toNat - '0'.toNat)) 0)
  else none

/-- `<T as FromStr>::from_str` for an integer type `T` holding `lo ..= hi`: an optional
`+` (or `-` when `T` is signed), then ASCII digits, and an error on overflow. -/
def parseInt (signed : Bool) (lo hi : Int) (s : String) : Option Int :=
  let inRange := fun v : Int => if lo ≤ v ∧ v ≤ hi then some v else none
  match s.toList with
  | [] | ['+'] | ['-'] => none
  | '+' :: ds => (digits ds).bind fun n => inRange n
  | '-' :: ds => if signed then (digits ds).bind fun n => inRange (-n) else none
  | ds => (digits ds).bind fun n => inRange n

example : parseInt true (-2 ^ 31) (2 ^ 31 - 1) "-12" = some (-12) := by decide
example : parseInt false 0 (2 ^ 32 - 1) "-0" = none := by decide
example : lines "a\r\n\nb\r" = ["a", "", "b\r"] := by decide

end SqDbg.Rust
