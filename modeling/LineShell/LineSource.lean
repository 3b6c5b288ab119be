import LineShell.Error

/-!
# Sources of lines

Where lines come from. A source is asked for one line at a time, with a prompt, and answers with
text or with an error. Every source comes to an end: it has a size, and each line makes it smaller.
That is what lets a whole session be one recursion.
-/

namespace LineShell

/-- An answer of a source to the request for a line. -/
structure Reading (σ : Type) where
  /-- What was written of the prompt. -/
  prompted : Bytes
  /-- The line, or why there is none. -/
  result : Except ShellError Text
  /-- The source afterwards. -/
  source : σ

/-- A source of lines. -/
class LineSource (σ : Type) where
  /-- Prompts for a line and reads it. -/
  readLine : Text → σ → Reading σ
  /-- A bound on what is still to be read. -/
  size : σ → Nat
  /-- A line takes something away from the source. -/
  size_lt : ∀ {prompt : Text} {s : σ} {line : Text},
    (readLine prompt s).result = .ok line → size (readLine prompt s).source < size s

namespace LineSource

variable {σ : Type} [LineSource σ]

/-- All that a source answers until it fails: its lines, the error, and what was written as
prompts. -/
def readAll (prompt : Text) (s : σ) : List Text × ShellError × Bytes :=
  let r := readLine prompt s
  match _ : r.result with
  | .error e => ([], e, r.prompted)
  | .ok line =>
    let rest := readAll prompt r.source
    (line :: rest.1, rest.2.1, r.prompted ++ rest.2.2)
termination_by size s
decreasing_by exact size_lt ‹_›

theorem readAll_of_error {prompt : Text} {s s' : σ} {p : Bytes} {e : ShellError}
    (h : readLine prompt s = ⟨p, .error e, s'⟩) : readAll prompt s = ([], e, p) := by
  rw [readAll]
  split
  · next e' he =>
    rw [h] at he
    obtain rfl : e = e' := Except.error.inj he
    rw [h]
  · next line hl =>
    rw [h] at hl
    exact absurd hl (by simp)

theorem readAll_of_line {prompt : Text} {s s' : σ} {p : Bytes} {line : Text}
    (h : readLine prompt s = ⟨p, .ok line, s'⟩) :
    readAll prompt s
      = (line :: (readAll prompt s').1, (readAll prompt s').2.1, p ++ (readAll prompt s').2.2) := by
  rw [readAll]
  split
  · next e he =>
    rw [h] at he
    exact absurd he (by simp)
  · next line' hl =>
    rw [h] at hl
    obtain rfl : line = line' := Except.ok.inj hl
    simp only [h]

end LineSource

/-! ## Cutting lines off -/

/-- The bytes up to and with the first newline, or all of them, and the bytes behind it. -/
def cutLine : Bytes → Bytes × Bytes
  | [] => ([], [])
  | b :: bs => if b = newline then ([b], bs) else (b :: (cutLine bs).1, (cutLine bs).2)

@[simp] theorem cutLine_nil : cutLine [] = ([], []) := rfl

/-- Nothing is lost where a line is cut off. -/
theorem cutLine_append (bs : Bytes) : (cutLine bs).1 ++ (cutLine bs).2 = bs := by
  induction bs with
  | nil => rfl
  | cons b bs ih =>
    rw [cutLine]
    split
    · rfl
    · rw [List.cons_append, ih]

theorem cutLine_fst_ne_nil {bs : Bytes} (h : bs ≠ []) : (cutLine bs).1 ≠ [] := by
  cases bs with
  | nil => exact absurd rfl h
  | cons b bs =>
    rw [cutLine]
    split <;> exact List.cons_ne_nil _ _

/-- A line that ends in a piece is cut off that piece. -/
theorem cutLine_append_of_mem {p : Bytes} (h : newline ∈ p) (q : Bytes) :
    cutLine (p ++ q) = ((cutLine p).1, (cutLine p).2 ++ q) := by
  induction p with
  | nil => exact absurd h (by simp)
  | cons b p ih =>
    rw [List.cons_append, cutLine, cutLine]
    split
    · rfl
    · next hb => rw [ih ((List.mem_cons.1 h).resolve_left (Ne.symm hb))]

/-- A piece without a newline goes in front of the line behind it. -/
theorem cutLine_append_of_not_mem {p : Bytes} (h : newline ∉ p) (q : Bytes) :
    cutLine (p ++ q) = (p ++ (cutLine q).1, (cutLine q).2) := by
  induction p with
  | nil => rfl
  | cons b p ih =>
    rw [List.mem_cons, not_or] at h
    rw [List.cons_append, cutLine, if_neg (Ne.symm h.1), ih h.2, List.cons_append]

theorem length_cutLine_snd_lt {bs : Bytes} (h : bs ≠ []) :
    (cutLine bs).2.length < bs.length := by
  have hlen := congrArg List.length (cutLine_append bs)
  have hpos := List.length_pos_iff.2 (cutLine_fst_ne_nil h)
  rw [List.length_append] at hlen
  omega

end LineShell
