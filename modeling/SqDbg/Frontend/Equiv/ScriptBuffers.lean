import SqDbg.Frontend.ScriptBuffers
import Mathlib.Data.List.Range
import Mathlib.Data.List.Nodup

/-!
# Buffer numbers are fresh, until the `u32` counter wraps

`AbsBuffers` is what the buffers are for: a finite map from numbers to texts whose `add`
hands out a number never used before.  `ScriptBuffers` refines it as long as the counter
does not wrap (`Refines.apply`), and keeps its numbers strictly increasing and below the
counter (`Valid`).  `buffers_numbering` assembles this for every sequence of calls from
`new()` with at most `2 ^ 32 - 2` adds: the invariant holds, the adds return distinct
numbers, `get` answers what the abstract map holds, and `replace` and `delete` leave the
other buffers and their order alone.

Past that many adds the counter wraps to `0` and then hands out `1` again:
`add_numbers_repeat_after_wrap`.
-/

namespace SqDbg

namespace ScriptBuffers

/-! ### The calls, one at a time -/

/-- The text of the first entry with number `n`: what `get` reads. -/
def lookup (l : List (UInt32 × String)) (n : UInt32) : Option String :=
  (l.find? (·.1 == n)).map (·.2)

@[simp] theorem lookup_nil (n : UInt32) : lookup [] n = none := rfl

theorem lookup_cons (e : UInt32 × String) (es : List (UInt32 × String)) (n : UInt32) :
    lookup (e :: es) n = if e.1 = n then some e.2 else lookup es n := by
  by_cases h : e.1 = n
  · simp [lookup, List.find?_cons_of_pos, h]
  · rw [lookup, List.find?_cons_of_neg _ (by simpa using h)]; simp [h, lookup]

theorem lookup_append_single (l : List (UInt32 × String)) (c n : UInt32) (s : String) :
    lookup (l ++ [(c, s)]) n = (lookup l n).or (if c = n then some s else none) := by
  induction l with
  | nil => by_cases h : c = n <;> simp [lookup_cons, h]
  | cons e es ih => by_cases h : e.1 = n <;> simp [lookup_cons, h, ih]

theorem lookup_eq_none {l : List (UInt32 × String)} {n : UInt32} (h : ∀ e ∈ l, e.1 ≠ n) :
    lookup l n = none := by
  induction l with
  | nil => rfl
  | cons e es ih =>
    rw [lookup_cons, if_neg (h e (List.mem_cons_self _ _))]
    exact ih fun x hx => h x (List.mem_cons_of_mem _ hx)

theorem get_add (b : ScriptBuffers) (hb : ∀ e ∈ b.store, e.1 ≠ b.counter) (s : String)
    (n : UInt32) : (b.add s).1.get n = if n = b.counter then some s else b.get n := by
  show lookup (b.store ++ [(b.counter, s)]) n = _
  rw [lookup_append_single]
  by_cases h : n = b.counter
  · subst h; simp [lookup_eq_none hb]
  · simp [h, Ne.symm h, get, lookup]

theorem lookup_replaceFirst (n m : UInt32) (s : String) (l : List (UInt32 × String)) :
    lookup (replaceFirst n s l) m =
      if m = n ∧ (lookup l n).isSome then some s else lookup l m := by
  induction l with
  | nil => simp [replaceFirst]
  | cons e es ih =>
    by_cases he : e.1 = n
    · by_cases hm : m = n
      · simp [replaceFirst, he, hm, lookup_cons]
      · simp [replaceFirst, he, hm, lookup_cons, Ne.symm hm]
    · by_cases hm : e.1 = m
      · have : m ≠ n := hm ▸ he
        simp [replaceFirst, he, hm, this, lookup_cons]
      · simp only [replaceFirst, if_neg he, lookup_cons, if_neg hm, ih]

theorem get_replace (b : ScriptBuffers) (n m : UInt32) (s : String) :
    (b.replace n s).get m = if m = n ∧ (b.get n).isSome then some s else b.get m :=
  lookup_replaceFirst n m s b.store

theorem lookup_filter (n m : UInt32) (l : List (UInt32 × String)) :
    lookup (l.filter (·.1 != n)) m = if m = n then none else lookup l m := by
  induction l with
  | nil => simp
  | cons e es ih =>
    by_cases he : e.1 = n
    · rw [List.filter_cons_of_neg (by simp [he]), ih, lookup_cons]
      by_cases hm : m = n <;> simp [hm, he, Ne.symm]
    · rw [List.filter_cons_of_pos (by simp [he]), lookup_cons, lookup_cons, ih]
      by_cases hm : e.1 = m
      · simp [hm, show m ≠ n from hm ▸ he]
      · simp [hm]

theorem get_delete (b : ScriptBuffers) (n m : UInt32) :
    (b.delete n).get m = if m = n then none else b.get m :=
  lookup_filter n m b.store

theorem map_fst_replaceFirst (n : UInt32) (s : String) (l : List (UInt32 × String)) :
    (replaceFirst n s l).map (·.1) = l.map (·.1) := by
  induction l with
  | nil => rfl
  | cons e es ih => by_cases he : e.1 = n <;> simp [replaceFirst, he, ih]

/-! ### The numbering invariant -/

/-- The numbers in the store increase strictly in store order and stay below the
counter. -/
def Valid (b : ScriptBuffers) : Prop :=
  (b.store.map (·.1.toNat)).Pairwise (· < ·) ∧ ∀ e ∈ b.store, e.1.toNat < b.counter.toNat

theorem valid_new : new.Valid := by simp [Valid, new]

theorem Valid.ne_counter {b : ScriptBuffers} (hv : b.Valid) :
    ∀ e ∈ b.store, e.1 ≠ b.counter :=
  fun e he h => Nat.lt_irrefl _ (h ▸ hv.2 e he)

@[simp] theorem toNat_inj_iff {m n : UInt32} : m.toNat = n.toNat ↔ m = n :=
  ⟨UInt32.toNat.inj, congrArg _⟩

theorem toNat_succ {c : UInt32} (h : c.toNat + 1 < 2 ^ 32) : (c + 1).toNat = c.toNat + 1 := by
  have : (c + 1).toNat = (c.toNat + 1) % 2 ^ 32 := rfl
  omega

theorem Valid.add {b : ScriptBuffers} (hv : b.Valid) (hroom : b.counter.toNat + 1 < 2 ^ 32)
    (s : String) : (b.add s).1.Valid := by
  obtain ⟨hs, hlt⟩ := hv
  refine ⟨?_, ?_⟩
  · simp only [ScriptBuffers.add, List.map_append, List.map_cons, List.map_nil,
      List.pairwise_append, List.pairwise_singleton, List.mem_singleton, true_and]
    refine ⟨hs, fun a ha => ?_⟩
    obtain ⟨e, he, rfl⟩ := List.mem_map.1 ha
    exact fun _ h => h ▸ hlt e he
  · simp only [ScriptBuffers.add, List.mem_append, List.mem_singleton, toNat_succ hroom]
    rintro e (he | rfl)
    · exact Nat.lt_succ_of_lt (hlt e he)
    · exact Nat.lt_succ_self _

theorem Valid.replace {b : ScriptBuffers} (hv : b.Valid) (n : UInt32) (s : String) :
    (b.replace n s).Valid := by
  have hmap : (replaceFirst n s b.store).map (·.1.toNat) = b.store.map (·.1.toNat) := by
    simpa using congrArg (List.map UInt32.toNat) (map_fst_replaceFirst n s b.store)
  refine ⟨by simpa [ScriptBuffers.replace, hmap] using hv.1, fun e he => ?_⟩
  have : e.1.toNat ∈ b.store.map (·.1.toNat) := hmap ▸ List.mem_map_of_mem _ he
  obtain ⟨e', he', heq⟩ := List.mem_map.1 this
  exact heq ▸ hv.2 e' he'

theorem Valid.delete {b : ScriptBuffers} (hv : b.Valid) (n : UInt32) : (b.delete n).Valid :=
  ⟨hv.1.sublist ((List.filter_sublist _).map _),
    fun e he => hv.2 e (List.mem_of_mem_filter he)⟩

theorem add_ret (b : ScriptBuffers) (s : String) : (b.add s).2 = b.counter := by
  apply UInt32.toNat.inj
  have h1 : (b.counter + 1 - 1).toNat =
      (2 ^ 32 - (1 : UInt32).toNat + (b.counter + 1).toNat) % 2 ^ 32 := rfl
  have h2 : (b.counter + 1).toNat = (b.counter.toNat + 1) % 2 ^ 32 := rfl
  have h3 : (1 : UInt32).toNat = 1 := rfl
  have := b.counter.toNat_lt_size
  simp only [UInt32.size] at this
  exact h1.trans (by omega)

/-- `replace` keeps every number in its place and every buffer with another number. -/
theorem forall₂_replaceFirst (n : UInt32) (s : String) (l : List (UInt32 × String)) :
    List.Forall₂ (fun e e' => e'.1 = e.1 ∧ (e.1 ≠ n → e' = e)) l (replaceFirst n s l) := by
  induction l with
  | nil => exact .nil
  | cons e es ih =>
    by_cases he : e.1 = n
    · rw [replaceFirst, if_pos he]
      exact .cons ⟨he.symm, fun h => absurd he h⟩
        (List.forall₂_same.2 fun _ _ => ⟨rfl, fun _ => rfl⟩)
    · rw [replaceFirst, if_neg he]
      exact .cons ⟨rfl, fun _ => rfl⟩ ih

end ScriptBuffers

/-! ### What the store is for -/

/-- What a call returns, with numbers as naturals. -/
inductive AbsRet where
  | added (number : Nat)
  | got (buf : Option String)
  | done
  deriving DecidableEq

/-- The number an `add` returned. -/
def AbsRet.added? : AbsRet → Option Nat
  | .added n => some n
  | _ => none

/-- A return value with its number read as a natural. -/
def BufferRet.abs : BufferRet → AbsRet
  | .added n => .added n.toNat
  | .got buf => .got buf
  | .done => .done

theorem filterMap_added_abs (rs : List BufferRet) :
    (rs.map BufferRet.abs).filterMap AbsRet.added? =
      (rs.filterMap BufferRet.added?).map UInt32.toNat := by
  induction rs with
  | nil => rfl
  | cons r rs ih =>
    cases r <;> simp [BufferRet.abs, AbsRet.added?, BufferRet.added?, List.filterMap_cons, ih]

/-- Numbered texts with no bound on the numbers: `next` is the number `add` hands out, and
`text n` the text last stored under `n`, if it was not deleted since. -/
structure AbsBuffers where
  next : Nat
  text : Nat → Option String

namespace AbsBuffers

/-- Nothing stored, `1` handed out first. -/
def init : AbsBuffers := ⟨1, fun _ => none⟩

/-- One call: `add` stores under a fresh number, `replace` overwrites only a text that is
there, `delete` forgets. -/
def apply (a : AbsBuffers) : BufferOp → AbsBuffers × AbsRet
  | .add buf => (⟨a.next + 1, Function.update a.text a.next (some buf)⟩, .added a.next)
  | .get n => (a, .got (a.text n.toNat))
  | .replace n buf =>
    (⟨a.next, Function.update a.text n.toNat ((a.text n.toNat).map fun _ => buf)⟩, .done)
  | .delete n => (⟨a.next, Function.update a.text n.toNat none⟩, .done)

/-- A sequence of calls, with what each returned. -/
def run (a : AbsBuffers) : List BufferOp → AbsBuffers × List AbsRet
  | [] => (a, [])
  | op :: ops =>
    let (a₁, r) := a.apply op
    let (a₂, rs) := a₁.run ops
    (a₂, r :: rs)

theorem next_apply (a : AbsBuffers) (op : BufferOp) :
    (a.apply op).1.next = a.next + if op.isAdd then 1 else 0 := by
  cases op <;> rfl

theorem added_apply (a : AbsBuffers) (op : BufferOp) :
    (a.apply op).2.added? = if op.isAdd then some a.next else none := by
  cases op <;> rfl

/-- The numbers a run's adds return increase strictly from `next` on. -/
theorem added_run (a : AbsBuffers) (ops : List BufferOp) :
    ((a.run ops).2.filterMap AbsRet.added?).Pairwise (· < ·) ∧
      ∀ k ∈ (a.run ops).2.filterMap AbsRet.added?, a.next ≤ k := by
  induction ops generalizing a with
  | nil => simp [run]
  | cons op ops ih =>
    obtain ⟨hpw, hge⟩ := ih (a.apply op).1
    have hnext := a.next_apply op
    simp only [run, List.filterMap_cons, added_apply]
    cases hop : op.isAdd <;> simp only [hop, if_true, Bool.false_eq_true, if_false,
      Nat.add_zero] at hnext ⊢ <;> rw [hnext] at hge
    · exact ⟨hpw, hge⟩
    · refine ⟨List.pairwise_cons.2 ⟨fun k hk => by have := hge k hk; omega, hpw⟩, ?_⟩
      intro k hk
      rcases List.mem_cons.1 hk with rfl | hk
      · exact le_refl _
      · have := hge k hk; omega

end AbsBuffers

/-! ### The refinement -/

namespace ScriptBuffers

/-- `b` implements `a`: the invariant holds, the counter is `next`, and `get` reads `text`. -/
structure Refines (b : ScriptBuffers) (a : AbsBuffers) : Prop where
  valid : b.Valid
  counter : b.counter.toNat = a.next
  get : ∀ n, b.get n = a.text n.toNat

theorem refines_new : Refines new AbsBuffers.init := ⟨valid_new, rfl, fun _ => rfl⟩

variable {b : ScriptBuffers} {a : AbsBuffers}

theorem Refines.counter_eq_iff (h : Refines b a) (n : UInt32) :
    n = b.counter ↔ n.toNat = a.next := by
  rw [← h.counter, toNat_inj_iff]

/-- One call, as long as an `add` finds room for the counter's `+ 1`. -/
theorem Refines.apply (h : Refines b a) (op : BufferOp)
    (hroom : op.isAdd → a.next + 1 < 2 ^ 32) :
    Refines (b.apply op).1 (a.apply op).1 ∧ (b.apply op).2.abs = (a.apply op).2 := by
  cases op with
  | add s =>
    have hroom : b.counter.toNat + 1 < 2 ^ 32 := h.counter ▸ hroom rfl
    refine ⟨⟨h.valid.add hroom s, ?_, fun n => ?_⟩, ?_⟩
    · exact (toNat_succ hroom).trans (congrArg (· + 1) h.counter)
    · simp only [ScriptBuffers.apply, AbsBuffers.apply, get_add b h.valid.ne_counter,
        Function.update_apply, h.counter_eq_iff, h.get]
    · simp only [ScriptBuffers.apply, AbsBuffers.apply, BufferRet.abs, add_ret, h.counter]
  | get n =>
    exact ⟨h, by simp only [ScriptBuffers.apply, AbsBuffers.apply, BufferRet.abs, h.get]⟩
  | replace n s =>
    refine ⟨⟨h.valid.replace n s, h.counter, fun m => ?_⟩, rfl⟩
    simp only [ScriptBuffers.apply, AbsBuffers.apply, get_replace, Function.update_apply, h.get]
    by_cases hm : m = n
    · subst hm; cases a.text m.toNat <;> simp
    · simp [hm]
  | delete n =>
    refine ⟨⟨h.valid.delete n, h.counter, fun m => ?_⟩, rfl⟩
    simp only [ScriptBuffers.apply, AbsBuffers.apply, get_delete, Function.update_apply, h.get]
    by_cases hm : m = n <;> simp [hm]

/-- A run refines the abstract run while the adds still to come fit below `2 ^ 32`. -/
theorem Refines.runOps (h : Refines b a) (ops : List BufferOp)
    (hroom : a.next + ops.countP BufferOp.isAdd < 2 ^ 32) :
    Refines (b.runOps ops).1 (a.run ops).1 ∧
      (b.runOps ops).2.map BufferRet.abs = (a.run ops).2 := by
  induction ops generalizing b a with
  | nil => exact ⟨h, rfl⟩
  | cons op ops ih =>
    have hc := List.countP_cons (p := BufferOp.isAdd) (a := op) (l := ops)
    have hnext := a.next_apply op
    obtain ⟨h₁, hr⟩ := h.apply op fun hop => by simp only [hop, if_true] at hc; omega
    obtain ⟨h₂, hrs⟩ := ih h₁ (by rw [hnext]; omega)
    exact ⟨h₂, by simp only [ScriptBuffers.runOps, AbsBuffers.run, List.map_cons, hr, hrs]⟩

/-- `k` adds from any state: the counter and the numbers returned go up by one per add,
modulo `2 ^ 32`, and the store grows by one per add. -/
theorem runOps_replicate_add (b : ScriptBuffers) (s : String) (k : Nat) :
    (b.runOps (List.replicate k (.add s))).1.counter.toNat = (b.counter.toNat + k) % 2 ^ 32 ∧
    (b.runOps (List.replicate k (.add s))).1.store.length = b.store.length + k ∧
    ((b.runOps (List.replicate k (.add s))).2.filterMap BufferRet.added?).map UInt32.toNat =
      (List.range k).map fun i => (b.counter.toNat + i) % 2 ^ 32 := by
  have hlt := b.counter.toNat_lt_size
  simp only [UInt32.size] at hlt
  induction k generalizing b with
  | zero => simp [ScriptBuffers.runOps, Nat.mod_eq_of_lt hlt]
  | succ k ih =>
    have h1 : (b.add s).1.counter.toNat = (b.counter.toNat + 1) % 2 ^ 32 := rfl
    obtain ⟨hc, hl, hr⟩ := ih (b.add s).1 (UInt32.toNat_lt_size _)
    simp only [List.replicate_succ, ScriptBuffers.runOps, ScriptBuffers.apply,
      List.filterMap_cons, BufferRet.added?, List.map_cons, add_ret, hc, hl, hr, h1,
      List.range_succ_eq_map, List.map_map]
    refine ⟨by omega, by simp [ScriptBuffers.add]; omega, ?_⟩
    congr 1
    · omega
    · exact List.map_congr_left fun i _ => by simp only [Function.comp]; omega

end ScriptBuffers

open ScriptBuffers in
/-- **Buffer numbering.**  From `new()`, for every sequence of calls with at most
`2 ^ 32 - 2` adds: the store's numbers increase strictly and stay below the counter; the
adds return pairwise distinct numbers; every call returns what the abstract map returns, so
`get` answers the text last stored under its number unless it was deleted since; and
`replace(n, _)` and `delete(n)` keep every other buffer and the order of the store. -/
theorem buffers_numbering (ops : List BufferOp)
    (hroom : ops.countP BufferOp.isAdd ≤ 2 ^ 32 - 2) :
    (new.runOps ops).1.Valid ∧
    ((new.runOps ops).2.filterMap BufferRet.added?).Nodup ∧
    (new.runOps ops).2.map BufferRet.abs = (AbsBuffers.init.run ops).2 ∧
    (∀ n, (new.runOps ops).1.get n = (AbsBuffers.init.run ops).1.text n.toNat) ∧
    (∀ (b : ScriptBuffers) n m s, m ≠ n →
      (b.replace n s).get m = b.get m ∧ (b.delete n).get m = b.get m) ∧
    (∀ (b : ScriptBuffers) n s, List.Forall₂ (fun e e' => e'.1 = e.1 ∧ (e.1 ≠ n → e' = e))
      b.store (b.replace n s).store) ∧
    (∀ (b : ScriptBuffers) n, (b.delete n).store.Sublist b.store ∧
      ∀ e ∈ b.store, e ∈ (b.delete n).store ↔ e.1 ≠ n) := by
  obtain ⟨href, hrets⟩ := refines_new.runOps ops (by simp only [AbsBuffers.init]; omega)
  have hsorted := (AbsBuffers.init.added_run ops).1
  rw [← hrets, filterMap_added_abs] at hsorted
  refine ⟨href.valid, List.Nodup.of_map UInt32.toNat (hsorted.imp Nat.ne_of_lt), hrets, href.get,
    fun b n m s hm => ?_, fun b n s => forall₂_replaceFirst n s b.store, fun b n => ?_⟩
  · rw [get_replace, get_delete]; simp [hm]
  · refine ⟨List.filter_sublist _, fun e _ => ?_⟩
    simp [ScriptBuffers.delete, List.mem_filter, *]

open ScriptBuffers in
/-- Two adds, a delete of the first and a read of the second. -/
theorem buffers_numbering_two_adds :
    let ops := [BufferOp.add "x", .add "y", .delete 1, .get 2]
    ops.countP BufferOp.isAdd ≤ 2 ^ 32 - 2 ∧
    (new.runOps ops).1.Valid ∧
    ((new.runOps ops).2.filterMap BufferRet.added?).Nodup ∧
    (new.runOps ops).2.map BufferRet.abs = (AbsBuffers.init.run ops).2 ∧
    (∀ n, (new.runOps ops).1.get n = (AbsBuffers.init.run ops).1.text n.toNat) ∧
    (∀ (b : ScriptBuffers) n m s, m ≠ n →
      (b.replace n s).get m = b.get m ∧ (b.delete n).get m = b.get m) ∧
    (∀ (b : ScriptBuffers) n s, List.Forall₂ (fun e e' => e'.1 = e.1 ∧ (e.1 ≠ n → e' = e))
      b.store (b.replace n s).store) ∧
    (∀ (b : ScriptBuffers) n, (b.delete n).store.Sublist b.store ∧
      ∀ e ∈ b.store, e ∈ (b.delete n).store ↔ e.1 ≠ n) :=
  ⟨by decide, buffers_numbering _ (by decide)⟩

open ScriptBuffers in
/-- The bound is needed: after `2 ^ 32 - 1` adds the counter has wrapped to `0` below the
numbers in the store, and the `2 ^ 32 + 1`-th add returns `1`, as the first did. -/
theorem add_numbers_repeat_after_wrap :
    ¬ (new.runOps (List.replicate (2 ^ 32 - 1) (.add ""))).1.Valid ∧
    ¬ ((new.runOps (List.replicate (2 ^ 32 + 1) (.add ""))).2.filterMap
      BufferRet.added?).Nodup := by
  have hone : new.counter.toNat = 1 := rfl
  constructor
  · intro hv
    obtain ⟨hc, hl, -⟩ := new.runOps_replicate_add "" (2 ^ 32 - 1)
    have hpos : 0 < (new.runOps (List.replicate (2 ^ 32 - 1) (.add ""))).1.store.length := by
      rw [hl]; simp [new]
    obtain ⟨e, he⟩ := List.exists_mem_of_length_pos hpos
    have := hv.2 e he
    omega
  · intro hnd
    obtain ⟨-, -, hr⟩ := new.runOps_replicate_add "" (2 ^ 32 + 1)
    have h := hnd.map fun _ _ h => UInt32.toNat.inj h
    rw [hr] at h
    have := List.inj_on_of_nodup_map h (List.mem_range.2 (show 0 < 2 ^ 32 + 1 by omega))
      (List.mem_range.2 (show 2 ^ 32 < 2 ^ 32 + 1 by omega)) (by omega)
    omega

end SqDbg
