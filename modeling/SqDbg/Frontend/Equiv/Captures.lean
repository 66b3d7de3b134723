import SqDbg.Frontend.DebuggerFrontend
import SqDbg.Equiv.RustStr
import Mathlib.Data.String.Basic

/-!
# The capture list on a script's first line

`eval_script` reads a first line `|lvl.name, …|` as the locals to capture, and runs what
follows it.

* `splitCaptures_captureLine`: the list is read back exactly.  Every list of captures
  whose names start with an alphabetic character, end with one that is not whitespace and
  hold no `.`, `,` or newline, and whose levels fit in a `u32`, written `|lvl.name,…|` on
  a script's first line, comes back as the same list, with the lines after it as the
  script, whether the line ends the script or is ended by `'\n'` or `"\r\n"`
  (`splitCaptures_of_lines` says it once, for any text whose first line it is); the empty
  list `||` is refused as an invalid specification.
* `captured_script_joins_lines`: whenever `eval_script` runs a script with captured
  locals, the script is the buffer's lines after the first `collect`ed into one string,
  with nothing between them.  It holds no newline: a script of several lines reaches
  `execute` as one line.
-/

namespace SqDbg

open Rust

/-- A capture written `lvl.name`. -/
def captureText (c : Capture) : List Char :=
  (toString c.2).toList ++ '.' :: c.1.toList

/-- The capture list `|lvl.name,…,lvl.name|`. -/
def captureLine (cs : List Capture) : List Char :=
  '|' :: List.intercalate [','] (cs.map captureText) ++ ['|']

/-- A name the capture list can carry: it starts with an alphabetic character, ends with
one that is not whitespace, and holds no `.`, `,` or newline. -/
def CaptureName (u : UnicodeTables) (name : String) : Prop :=
  startsWith (isAlphabetic u) name ∧ endsWith (fun c => !isWhitespace u c) name ∧
    '.' ∉ name.toList ∧ ',' ∉ name.toList ∧ '\n' ∉ name.toList

section

variable (u : UnicodeTables)

/-! ### One capture -/

theorem parseSqUnsignedInteger_toString {l : Nat} (hl : l < 2 ^ 32) :
    parseSqUnsignedInteger (toString l) = some l := by
  simp only [parseSqUnsignedInteger, parseInt_toString]
  rw [if_pos ⟨by omega, by omega⟩]
  rfl

theorem not_mem_toString {c : Char} (hc : c.isDigit = false) (l : Nat) :
    c ∉ (toString l).toList := fun hm => by
  rw [(digits_toDigits l).1 c hm] at hc
  cases hc

theorem parseCapture_captureText {c : Capture} (hn : CaptureName u c.1) (hl : c.2 < 2 ^ 32) :
    parseCapture u (String.mk (captureText c)) = .ok c := by
  obtain ⟨⟨name⟩, l⟩ := c
  obtain ⟨hstart, hend, hdot, -, -⟩ := hn
  obtain ⟨d, ds, hds⟩ := List.exists_cons_of_ne_nil (toDigits_ne_nil l)
  have hstr : (toString l).toList = d :: ds := hds
  have hd : d.isDigit := (digits_toDigits l).1 d (by simp [hds])
  obtain ⟨e, he⟩ : ∃ e, name.getLast? = some e := by
    cases name with
    | nil => simp [startsWith] at hstart
    | cons x xs => exact ⟨_, rfl⟩
  have hew : isWhitespace u e = false := by simpa [endsWith, he] using hend
  have htrim : trim u (String.mk (captureText (⟨name⟩, l))) =
      String.mk (captureText (⟨name⟩, l)) := by
    refine trim_eq_self u (fun x hx => ?_) (fun x hx => ?_)
    · simp only [captureText, hstr, List.cons_append, List.head?_cons,
        Option.mem_some_iff] at hx
      exact hx ▸ isWhitespace_of_isDigit u hd
    · simp only [captureText, List.getLast?_append, List.getLast?_cons, String.toList, he,
        Option.getD_some] at hx
      exact (Option.mem_some_iff.1 hx) ▸ hew
  unfold parseCapture
  rw [htrim, captureText, split_append_cons (not_mem_toString (by decide) l) hdot]
  simp only [hstart, if_true, String.toList, parseSqUnsignedInteger_toString hl]

/-! ### The whole line -/

theorem newline_not_mem_captureText {c : Capture} (hn : CaptureName u c.1) :
    '\n' ∉ captureText c := by
  simp only [captureText, List.mem_append, List.mem_cons, not_or]
  exact ⟨not_mem_toString (by decide) c.2, by decide, hn.2.2.2.2⟩

theorem newline_not_mem_captureLine {cs : List Capture}
    (hn : ∀ c ∈ cs, CaptureName u c.1) : '\n' ∉ captureLine cs := by
  intro hm
  rcases List.mem_append.1 hm with hm | h
  · rcases List.mem_cons.1 hm with h | hm
    · exact absurd h (by decide)
    · rcases mem_intercalate hm with h | ⟨p, hp, hmp⟩
      · simp at h
      · obtain ⟨c, hc, rfl⟩ := List.mem_map.1 hp
        exact newline_not_mem_captureText u (hn c hc) hmp
  · simp at h

theorem captures_mapM {cs : List Capture} (hn : ∀ c ∈ cs, CaptureName u c.1 ∧ c.2 < 2 ^ 32) :
    (cs.map fun c => String.mk (captureText c)).mapM (parseCapture u) = .ok cs := by
  induction cs with
  | nil => rfl
  | cons c cs ih =>
    have hc := hn c (List.mem_cons_self c cs)
    simp only [List.map_cons, List.mapM_cons, parseCapture_captureText u hc.1 hc.2,
      ih (fun c' h' => hn c' (List.mem_cons_of_mem c h'))]
    rfl

theorem captureLine_getLast (cs : List Capture) : (captureLine cs).getLast? = some '|' := by
  rw [captureLine, List.getLast?_concat]

/-- A script whose first line is the capture list of `cs` is split into `cs` and the lines
after it, joined. -/
theorem splitCaptures_of_lines {cs : List Capture} {text : String} {rest : List String}
    (hn : ∀ c ∈ cs, CaptureName u c.1 ∧ c.2 < 2 ^ 32)
    (hl : lines text = String.mk (captureLine cs) :: rest) :
    splitCaptures u text =
      if cs = [] then .error (.invalidSpec "") else .ok (String.join rest, cs) := by
  have hlast := captureLine_getLast cs
  have htrim : trim u (String.mk (captureLine cs)) = String.mk (captureLine cs) :=
    trim_eq_self u (fun x hx => by cases Option.mem_some_iff.1 hx; rfl)
      (fun x hx => by rw [hlast] at hx; cases Option.mem_some_iff.1 hx; rfl)
  have hends : endsWith (· == '|') (String.mk (captureLine cs)) = true := by
    simp [endsWith, String.toList, hlast]
  have hlen : ¬ (String.mk (captureLine cs)).length < 2 := by
    simp [String.length, captureLine]
  have hstarts : startsWith (· == '|') (String.mk (captureLine cs)) = true := rfl
  have hlist : (captureLine cs).tail.dropLast = List.intercalate [','] (cs.map captureText) := by
    simp [captureLine]
  unfold splitCaptures
  simp only [hl, htrim, hstarts, hends, hlen, String.toList, List.drop_one, List.tail_cons,
    hlist, Bool.not_true, Bool.false_or, Bool.false_eq_true, if_false]
  by_cases hcs : cs = []
  · subst hcs
    rfl
  · have hsep : ∀ p ∈ cs.map captureText, ',' ∉ p := fun p hp => by
      obtain ⟨c, hc, rfl⟩ := List.mem_map.1 hp
      simp only [captureText, List.mem_append, List.mem_cons, not_or]
      exact ⟨not_mem_toString (by decide) c.2, by decide, (hn c hc).1.2.2.2.1⟩
    rw [split_intercalate (by simpa using hcs) hsep, List.map_map, if_neg hcs]
    simp only [Function.comp_def, captures_mapM u hn]
    rfl

end

/-- **The capture list is read back.**  A script whose first line is the capture list of
`cs`, for names the list can carry and levels below `2 ^ 32`, is split into the same
captures and the lines after it, joined, whether the line ends the script or is ended by
`'\n'` or `"\r\n"`; for the empty list `||` it stops with an invalid specification. -/
theorem splitCaptures_captureLine (u : UnicodeTables) (cs : List Capture)
    (hn : ∀ c ∈ cs, CaptureName u c.1 ∧ c.2 < 2 ^ 32) :
    splitCaptures u (String.mk (captureLine cs)) =
        (if cs = [] then .error (.invalidSpec "") else .ok ("", cs)) ∧
      ∀ term body, (term = ['\n'] ∨ term = ['\r', '\n']) →
        splitCaptures u (String.mk (captureLine cs ++ term ++ body)) =
          if cs = [] then .error (.invalidSpec "")
          else .ok (String.join (lines (String.mk body)), cs) := by
  have hnl := newline_not_mem_captureLine u fun c hc => (hn c hc).1
  refine ⟨splitCaptures_of_lines u hn (lines_of_not_mem hnl (List.cons_ne_nil _ _)), ?_⟩
  rintro term body (rfl | rfl)
  · -- The line ends at `'\n'`, and `lines` keeps it as it is: it does not end in `'\r'`.
    refine splitCaptures_of_lines u hn ?_
    rw [List.append_assoc, List.singleton_append, lines_append_newline hnl]
    simp [stripCr, captureLine_getLast]
  · -- The line ends at `"\r\n"`, and `lines` strips the `'\r'`.
    have hnl' : '\n' ∉ captureLine cs ++ ['\r'] := by simp [hnl]
    refine splitCaptures_of_lines u hn ?_
    rw [show captureLine cs ++ ['\r', '\n'] ++ body = (captureLine cs ++ ['\r']) ++ '\n' :: body
      by simp, lines_append_newline hnl']
    simp [stripCr]

/-- `|3.this,1.x|` is read back, alone and with a script after it on the next line. -/
theorem this_and_x_read_back :
    (∀ c ∈ [("this", 3), ("x", 1)], CaptureName asciiOnly c.1 ∧ c.2 < 2 ^ 32) ∧
      splitCaptures asciiOnly (String.mk (captureLine [("this", 3), ("x", 1)])) =
        .ok ("", [("this", 3), ("x", 1)]) ∧
      splitCaptures asciiOnly
          (String.mk (captureLine [("this", 3), ("x", 1)] ++ ['\r', '\n'] ++ "return x".toList)) =
        .ok ("return x", [("this", 3), ("x", 1)]) := by
  have hn : ∀ c ∈ [("this", 3), ("x", 1)], CaptureName asciiOnly c.1 ∧ c.2 < 2 ^ 32 := by
    unfold CaptureName; decide
  have h := splitCaptures_captureLine asciiOnly [("this", 3), ("x", 1)] hn
  exact ⟨hn, h.1, (h.2 _ _ (.inr rfl)).trans rfl⟩

/-! ### The script `eval_script` runs -/

/-- The script and captured locals `eval_script` handed to `execute` or `execute_debug`. -/
def EvalOut.ran : EvalOut → Option (String × List Capture)
  | .evaluated script capture _ | .spawned script capture | .debugFailed script capture _ =>
    some (script, capture)
  | _ => none

/-- `out ← x; pure (a, out)` can only succeed with `a` in front. -/
theorem fst_of_bind_pure_eq_ok {ε α β : Type} {x : Except ε α} {a b : β} {o : α}
    (h : (x >>= fun out => pure (a, out)) = .ok (b, o)) : b = a := by
  cases x with
  | error e => cases h
  | ok out => cases h; rfl

/-- With locals captured, the script is the lines after the first, joined. -/
theorem splitCaptures_script {u : UnicodeTables} {text script : String}
    {capture : List Capture} (h : splitCaptures u text = .ok (script, capture))
    (hc : capture ≠ []) : script = String.join ((lines text).drop 1) := by
  unfold splitCaptures at h
  split at h
  · cases h
  · dsimp only at h
    split_ifs at h
    · cases h
      exact absurd rfl hc
    · exact fst_of_bind_pure_eq_ok h

/-- A join of lines holds no newline. -/
theorem newline_not_mem_join_lines (text : String) (k : Nat) :
    '\n' ∉ (String.join ((lines text).drop k)).toList := by
  intro hm
  simp only [String.toList, String.data_join, List.mem_flatten, List.mem_map] at hm
  obtain ⟨_, ⟨l, hl, rfl⟩, hm⟩ := hm
  exact newline_not_mem_of_mem_lines (List.mem_of_mem_drop hl) hm

/-- **A captured script runs as one line.**  Whenever `eval_script` hands a script with
captured locals to `execute` or `execute_debug`, the script is the selected buffer's lines
after the first, concatenated with nothing between them, and it holds no newline. -/
theorem captured_script_joins_lines (fe : DebuggerFrontend) (env : FrontendEnv) (debug : Bool)
    (buffer : Option UInt32) {script : String} {capture : List Capture}
    (hran : (fe.evalScript env debug buffer).2.ran = some (script, capture))
    (hc : capture ≠ []) :
    ∃ text, (selectScript fe.buffers env buffer).2 = .ok text ∧
      script = String.join ((lines text).drop 1) ∧ '\n' ∉ script.toList := by
  unfold DebuggerFrontend.evalScript at hran
  split at hran
  · cases hran
  · rcases hsel : selectScript fe.buffers env buffer with ⟨buffers, sel⟩
    rw [hsel] at hran
    cases sel with
    | error e => cases hran
    | ok text =>
      cases hs : splitCaptures env.u text with
      | error e => simp [Except.bind, hs, EvalOut.ran] at hran
      | ok p =>
        obtain ⟨script', capture'⟩ := p
        have hsc : script' = script ∧ capture' = capture := by
          simp only [Except.bind, hs] at hran
          split at hran
          · simpa [EvalOut.ran] using hran
          · split at hran <;> simpa [EvalOut.ran] using hran
        obtain ⟨rfl, rfl⟩ := hsc
        have hjoin := splitCaptures_script hs hc
        exact ⟨text, rfl, hjoin, hjoin ▸ newline_not_mem_join_lines text 1⟩

/-- A new buffer `|1.x|`, `local y = x`, `return y` runs as `local y = xreturn y`. -/
theorem two_line_script_joined :
    let env : FrontendEnv := ⟨fun _ => .ok "|1.x|\nlocal y = x\nreturn y", fun _ _ => .ok "",
      fun _ _ => .ok (), fun _ _ => .error .noLocalsAtAllLevels, fun _ => .error "", asciiOnly, 0⟩
    (DebuggerFrontend.new.evalScript env false none).2.ran =
        some ("local y = xreturn y", [("x", 1)]) ∧ [("x", 1)] ≠ ([] : List Capture) ∧
      ∃ text, (selectScript DebuggerFrontend.new.buffers env none).2 = .ok text ∧
        "local y = xreturn y" = String.join ((lines text).drop 1) ∧
        '\n' ∉ "local y = xreturn y".toList := by
  intro env
  have hran : (DebuggerFrontend.new.evalScript env false none).2.ran =
      some ("local y = xreturn y", [("x", 1)]) := by decide
  have hc : [("x", 1)] ≠ ([] : List Capture) := by decide
  exact ⟨hran, hc, captured_script_joins_lines _ _ _ _ hran hc⟩

end SqDbg
