import LineShell.Text

/-!
# Tokens of a line

A line is cut into words at spaces and newlines. Quotes and backslashes take the meaning of the
characters they protect away, and leave no trace in the words; in particular a quoted operator is
the same word as a bare one.

## Two stages

Quoting decides what each character is *for*, and only then are words formed. `marks` makes the
first decision: a character of the line leaves a character of a word, a break between words, or
nothing. `wordsOf` forms the words, which are the runs of characters between breaks. The stages meet
in a list of marks, so a law about quoting never mentions words and a law about words never mentions
quoting.

There is no word without characters: an empty pair of quotes leaves no mark, hence no word.
-/

namespace LineShell

namespace Token

/-! ## Quoting -/

/-- Which quotes a character stands in. -/
inductive Quotes where
  /-- In none. -/
  | plain
  /-- In single quotes, where every character but the closing quote is literal. -/
  | single
  /-- In double quotes, where the backslash keeps a part of its meaning. -/
  | double
  deriving DecidableEq, Repr

/-- What is left of a character of the line: a character of a word, or a break (`none`). -/
abbrev Mark := Option Char

/-- The characters that separate words outside of quotes. -/
def IsSeparator (c : Char) : Prop := c = ' ' ∨ c = '\n'

instance (c : Char) : Decidable (IsSeparator c) := inferInstanceAs (Decidable (_ ∨ _))

/-- The characters that a backslash protects in double quotes. -/
def IsEscapable (c : Char) : Prop := c = '$' ∨ c = '`' ∨ c = '"' ∨ c = '\\' ∨ c = '\n'

instance (c : Char) : Decidable (IsEscapable c) := inferInstanceAs (Decidable (_ ∨ _))

/-- The marks of a text that begins in given quotes. A backslash outside of single quotes protects
the character after it; at the end of the text, or before a character that it cannot protect, it
is a character like any other. A newline in quotes leaves nothing. -/
def marks : Quotes → Text → List Mark
  | _, [] => []
  | .plain, '\'' :: t => marks .single t
  | .plain, '"' :: t => marks .double t
  | .plain, '\\' :: c :: t => some c :: marks .plain t
  | .plain, c :: t => (if IsSeparator c then none else some c) :: marks .plain t
  | .single, '\'' :: t => marks .plain t
  | .single, c :: t => if c = '\n' then marks .single t else some c :: marks .single t
  | .double, '"' :: t => marks .plain t
  | .double, '\\' :: c :: t =>
    if IsEscapable c then some c :: marks .double t else some '\\' :: marks .double (c :: t)
  | .double, c :: t => if c = '\n' then marks .double t else some c :: marks .double t

/-! ### Laws of quoting -/

theorem marks_plain_cons {c : Char} (hs : c ≠ '\'') (hd : c ≠ '"') (hb : c ≠ '\\') (t : Text) :
    marks .plain (c :: t) = (if IsSeparator c then none else some c) :: marks .plain t := by
  rw [marks.eq_def]
  split <;> simp_all

theorem marks_single_cons {c : Char} (hs : c ≠ '\'') (t : Text) :
    marks .single (c :: t) = if c = '\n' then marks .single t else some c :: marks .single t := by
  rw [marks.eq_def]
  split <;> simp_all

theorem marks_double_cons {c : Char} (hd : c ≠ '"') (hb : c ≠ '\\') (t : Text) :
    marks .double (c :: t) = if c = '\n' then marks .double t else some c :: marks .double t := by
  rw [marks.eq_def]
  split <;> simp_all

theorem marks_double_backslash (c : Char) (t : Text) :
    marks .double ('\\' :: c :: t) =
      if IsEscapable c then some c :: marks .double t
      else some '\\' :: marks .double (c :: t) := rfl

/-! ## Words -/

/-- The characters before the first break, and the words behind it. -/
def gather : List Mark → Text × List Text
  | [] => ([], [])
  | some c :: ms => (c :: (gather ms).1, (gather ms).2)
  | none :: ms => ([], if (gather ms).1 = [] then (gather ms).2 else (gather ms).1 :: (gather ms).2)

/-- The runs of characters between breaks, without the empty ones. -/
def wordsOf (ms : List Mark) : List Text :=
  if (gather ms).1 = [] then (gather ms).2 else (gather ms).1 :: (gather ms).2

/-! ### Laws of words -/

@[simp] theorem gather_none_cons (ms : List Mark) : gather (none :: ms) = ([], wordsOf ms) := rfl

@[simp] theorem gather_some_cons (c : Char) (ms : List Mark) :
    gather (some c :: ms) = (c :: (gather ms).1, (gather ms).2) := rfl

@[simp] theorem wordsOf_nil : wordsOf [] = [] := rfl

@[simp] theorem wordsOf_none_cons (ms : List Mark) : wordsOf (none :: ms) = wordsOf ms := rfl

theorem gather_map_some_append (w : Text) (ms : List Mark) :
    gather (w.map some ++ ms) = (w ++ (gather ms).1, (gather ms).2) := by
  induction w with
  | nil => rfl
  | cons c w ih => simp [ih]

/-- **Words split at a break.** Everything about `wordsOf` follows from this equation and from
`wordsOf_map_some`. -/
theorem wordsOf_append_none (a b : List Mark) :
    wordsOf (a ++ none :: b) = wordsOf a ++ wordsOf b := by
  have key : gather (a ++ none :: b) = ((gather a).1, (gather a).2 ++ wordsOf b) := by
    induction a with
    | nil => rfl
    | cons m a ih =>
      cases m with
      | none =>
        simp only [List.cons_append, gather_none_cons]
        rw [wordsOf, ih]
        split <;> simp_all [wordsOf]
      | some c => simp [ih]
  rw [wordsOf, key]
  split <;> simp_all [wordsOf]

/-- A run of characters is one word, unless it is empty. -/
theorem wordsOf_map_some (w : Text) : wordsOf (w.map some) = if w = [] then [] else [w] := by
  have h := gather_map_some_append w []
  simp only [List.append_nil] at h
  rw [wordsOf, h]
  simp [gather]

theorem ne_nil_of_mem_wordsOf {ms : List Mark} {w : Text} (h : w ∈ wordsOf ms) : w ≠ [] := by
  have key : ∀ ms : List Mark, ∀ w ∈ (gather ms).2, w ≠ [] := by
    intro ms
    induction ms with
    | nil => simp [gather]
    | cons m ms ih =>
      cases m with
      | some c => simpa using ih
      | none =>
        intro w hw
        rw [gather_none_cons, wordsOf] at hw
        split at hw
        · exact ih w hw
        · next hne =>
          rcases List.mem_cons.1 hw with rfl | hw
          · exact hne
          · exact ih w hw
  rw [wordsOf] at h
  split at h
  · exact key ms w h
  · next hne =>
    rcases List.mem_cons.1 h with rfl | h
    · exact hne
    · exact key ms w h

end Token

/-! ## Lines -/

/-- The words of a line. -/
def tokenize (line : Text) : List Text := Token.wordsOf (Token.marks .plain line)

theorem ne_nil_of_mem_tokenize {line w : Text} (h : w ∈ tokenize line) : w ≠ [] :=
  Token.ne_nil_of_mem_wordsOf h

end LineShell
