import LineShell.LineSource
import LineShell.Text.Utf8
import LineShell.Writer

/-!
# Plain lines

Lines read from a stream of bytes. The stream comes in pieces of any size, which must not matter,
and then ends or fails. A line is everything up to and with the next newline; bytes that are not
UTF-8 do not stop it. At the end of the stream what is left is the last line, and has no newline; if
the stream fails instead, what is left is lost.

The prompt is written before anything is read. If it cannot be written whole, nothing is read.
-/

namespace LineShell

/-- How a stream goes on behind its last byte. -/
inductive StreamEnd where
  /-- It ends. -/
  | ended
  /-- It fails. -/
  | failed (cause : Fault)
  deriving DecidableEq, Repr

/-- A source of lines that reads a stream and prompts on a writer. -/
structure PlainLines where
  /-- The bytes still to be read, in pieces. -/
  pieces : List Bytes
  /-- What comes after them. -/
  ending : StreamEnd
  /-- Where prompts are written. -/
  prompter : Writer
  deriving DecidableEq, Repr

namespace PlainLines

/-- A source that has all its bytes at once, and prompts without fail. -/
def ofBytes (input : Bytes) : PlainLines := ⟨[input], .ended, .unlimited⟩

/-- The bytes still to be read. -/
def unread (s : PlainLines) : Bytes := s.pieces.flatten

/-- The bytes up to and with the first newline, the pieces behind it, and whether there was one. -/
def takeLine : List Bytes → Bytes × List Bytes × Bool
  | [] => ([], [], false)
  | p :: ps =>
    if newline ∈ p then ((cutLine p).1, (cutLine p).2 :: ps, true)
    else
      let (line, rest, found) := takeLine ps
      (p ++ line, rest, found)

/-- The line that a stream gives, once everything up to the next newline has been read. -/
def lineOf (ending : StreamEnd) (line : Bytes) (found : Bool) : Except ShellError Text :=
  if found then .ok (Utf8.decodeLossy line)
  else match ending with
    | .failed cause => .error (.readInput cause)
    | .ended => if line = [] then .error .endOfInput else .ok (Utf8.decodeLossy line)

/-- Prompts for a line and reads it. -/
def readLine (prompt : Text) (s : PlainLines) : Reading PlainLines :=
  let p := Utf8.encode prompt
  let prompted := s.prompter.taken p
  let s := { s with prompter := s.prompter.after p }
  if prompted ≠ p then ⟨prompted, .error (.readInput s.prompter.fault), s⟩
  else
    let (line, rest, found) := takeLine s.pieces
    ⟨prompted, lineOf s.ending line found, { s with pieces := rest }⟩

/-! ## Pieces do not matter -/

/-- A line taken from pieces is the line cut off all of them together. -/
theorem takeLine_eq_cutLine (ps : List Bytes) :
    ((takeLine ps).1, (takeLine ps).2.1.flatten) = cutLine ps.flatten := by
  induction ps with
  | nil => rfl
  | cons p ps ih =>
    rw [takeLine, List.flatten_cons]
    split
    · next hp => rw [cutLine_append_of_mem hp, List.flatten_cons]
    · next hp => rw [cutLine_append_of_not_mem hp, ← ih]

/-- The end of a line is found exactly when there is a newline. -/
theorem takeLine_found_iff (ps : List Bytes) :
    (takeLine ps).2.2 = true ↔ newline ∈ ps.flatten := by
  induction ps with
  | nil => simp [takeLine]
  | cons p ps ih =>
    rw [takeLine]
    split
    · next hp => simp [hp]
    · next hp => simpa [hp] using ih

/-! ## Nothing is lost -/

theorem takeLine_flatten (ps : List Bytes) :
    (takeLine ps).1 ++ (takeLine ps).2.1.flatten = ps.flatten := by
  obtain ⟨hline, hrest⟩ := Prod.ext_iff.1 (takeLine_eq_cutLine ps)
  change (takeLine ps).1 = _ at hline
  change (takeLine ps).2.1.flatten = _ at hrest
  rw [hline, hrest, cutLine_append]

theorem takeLine_ne_nil {ps : List Bytes} (h : (takeLine ps).2.2 = true) :
    (takeLine ps).1 ≠ [] := by
  have hline : (takeLine ps).1 = (cutLine ps.flatten).1 :=
    (Prod.ext_iff.1 (takeLine_eq_cutLine ps)).1
  rw [hline]
  exact cutLine_fst_ne_nil (List.ne_nil_of_mem ((takeLine_found_iff ps).1 h))

theorem length_unread_lt {prompt : Text} {s : PlainLines} {line : Text}
    (h : (readLine prompt s).result = .ok line) :
    (readLine prompt s).source.unread.length < s.unread.length := by
  rw [readLine] at h ⊢
  split at h
  · exact absurd h (by simp)
  · next hp =>
    rw [if_neg hp]
    have hne : (takeLine s.pieces).1 ≠ [] := by
      cases hf : (takeLine s.pieces).2.2 with
      | true => exact takeLine_ne_nil hf
      | false =>
        intro hnil
        simp only [hf, hnil] at h
        cases he : s.ending <;> simp [lineOf, he] at h
    have hlen := congrArg List.length (takeLine_flatten s.pieces)
    have hpos := List.length_pos_iff.2 hne
    rw [List.length_append] at hlen
    change (takeLine s.pieces).2.1.flatten.length < s.pieces.flatten.length
    omega

instance : LineSource PlainLines where
  readLine := readLine
  size s := s.unread.length
  size_lt := length_unread_lt

end PlainLines

end LineShell
