import LineShell.Error
import LineShell.Token

/-!
# Scanning a line by positions

`tokenize` takes a line apart as a list and never asks for a character by its position. A *scanner*
does: it stands at a position of the line, reads the character there, for a backslash also the one
behind it, and keeps the word that it is in and the words that it has finished. Each reading could
ask for a character that the line does not have. None does (`scan_eq`): the scanner comes to its end
on every line, with the words of the line.

What carries the proof is the list of words that a scanner will have in the end, as far as it can be
told from what it has and from the rest of the line (`Scanner.outlook`). No step changes it.
-/

namespace LineShell.Token

/-- A scanner of a line. -/
structure Scanner where
  /-- The position of the next character. -/
  position : Nat
  /-- The quotes in which it stands. -/
  quotes : Quotes
  /-- The characters of the word that has been begun. -/
  word : Text
  /-- The words before it. -/
  words : List Text

/-- The character of a line at a position. -/
def charAt (text : Text) (i : Nat) : Except Halt Char :=
  match text[i]? with
  | some c => .ok c
  | none => .error .outOfRange

theorem charAt_of_lt {text : Text} {i : Nat} (h : i < text.length) :
    charAt text i = .ok text[i] := by
  rw [charAt, List.getElem?_eq_getElem h]

namespace Scanner

/-- A scanner at the beginning of a line. -/
def start : Scanner := ⟨0, .plain, [], []⟩

/-- Opens quotes of one kind, or closes them. -/
def toggle (s : Scanner) (kind : Quotes) : Scanner :=
  { s with quotes := if s.quotes = kind then .plain else kind }

/-- Adds a character to the word. -/
def push (s : Scanner) (c : Char) : Scanner := { s with word := s.word ++ [c] }

/-- Ends the word, if one has been begun. -/
def breakWord (s : Scanner) : Scanner :=
  if s.word = [] then s else { s with word := [], words := s.words ++ [s.word] }

/-- Passes a character. -/
def advance (s : Scanner) : Scanner := { s with position := s.position + 1 }

/-- What a scanner does with a character that it has passed. Behind a backslash it may look at one
more. -/
def take (text : Text) (s : Scanner) (c : Char) : Except Halt Scanner :=
  if c = '\'' ∧ s.quotes ≠ .double then .ok (s.toggle .single)
  else if c = '"' ∧ s.quotes ≠ .single then .ok (s.toggle .double)
  else if c = '\\' ∧ s.quotes = .single then .ok (s.push c)
  else if c = '\\' ∧ s.position < text.length then
    match charAt text s.position with
    | .error halt => .error halt
    | .ok next =>
      if s.quotes ≠ .double ∨ IsEscapable next then .ok (s.push next).advance
      else .ok (s.push c)
  else if IsSeparator c ∧ s.quotes = .plain then .ok s.breakWord
  else if c = '\n' then .ok s
  else .ok (s.push c)

/-- Reads a character and does with it what is to be done. -/
def step (text : Text) (s : Scanner) : Except Halt Scanner :=
  match charAt text s.position with
  | .error halt => .error halt
  | .ok c => take text s.advance c

/-! ## What a scanner will have in the end -/

variable {text : Text} {s : Scanner} {c : Char}

/-- The words that a scanner has in the end if it still meets some marks. -/
def wordsBefore (s : Scanner) (ms : List Mark) : List Text :=
  s.words ++ wordsOf (s.word.map some ++ ms)

/-- The words that a scanner will have at the end of a line. -/
def outlook (text : Text) (s : Scanner) : List Text :=
  s.wordsBefore (marks s.quotes (text.drop s.position))

theorem wordsBefore_push (s : Scanner) (c : Char) (ms : List Mark) :
    (s.push c).wordsBefore ms = s.wordsBefore (some c :: ms) := by
  rw [wordsBefore, wordsBefore, push, List.map_append, List.append_assoc]
  rfl

theorem wordsBefore_breakWord (s : Scanner) (ms : List Mark) :
    s.breakWord.wordsBefore ms = s.wordsBefore (none :: ms) := by
  rw [wordsBefore, wordsBefore, wordsOf_append_none, wordsOf_map_some, breakWord]
  by_cases hword : s.word = []
  · rw [if_pos hword, if_pos hword, hword]
    rfl
  · rw [if_neg hword, if_neg hword, ← List.append_assoc]
    rfl

theorem wordsBefore_nil (s : Scanner) : s.wordsBefore [] = s.breakWord.words := by
  rw [wordsBefore, List.append_nil, wordsOf_map_some, breakWord]
  by_cases hword : s.word = []
  · rw [if_pos hword, if_pos hword, List.append_nil]
  · rw [if_neg hword, if_neg hword]

/-! ## One character -/

/-- Whether a scanner takes a character for what quoting makes of it: it asks for nothing that the
line does not have, it does not go back, and the words that it will have are those for the marks of
the character and of what follows. -/
def TakesAsMarked (text : Text) (s : Scanner) (c : Char) : Prop :=
  ∃ s', s.take text c = .ok s' ∧ s.position ≤ s'.position ∧
    s'.outlook text = s.wordsBefore (marks s.quotes (c :: text.drop s.position))

/-! ### The ways to take a character -/

theorem takesAsMarked_of_toggle (kind : Quotes) {quotes : Quotes}
    (h : s.take text c = .ok (s.toggle kind))
    (hquotes : (if s.quotes = kind then .plain else kind) = quotes)
    (hmarks : marks s.quotes (c :: text.drop s.position) = marks quotes (text.drop s.position)) :
    s.TakesAsMarked text c := by
  refine ⟨s.toggle kind, h, Nat.le_refl s.position, ?_⟩
  rw [hmarks, ← hquotes]
  rfl

theorem takesAsMarked_of_push {d : Char} (h : s.take text c = .ok (s.push d))
    (hmarks : marks s.quotes (c :: text.drop s.position)
      = some d :: marks s.quotes (text.drop s.position)) : s.TakesAsMarked text c := by
  refine ⟨s.push d, h, Nat.le_refl s.position, ?_⟩
  rw [hmarks, ← wordsBefore_push]
  rfl

theorem takesAsMarked_of_escape {next : Char} (h : s.take text c = .ok (s.push next).advance)
    (hmarks : marks s.quotes (c :: text.drop s.position)
      = some next :: marks s.quotes (text.drop (s.position + 1))) : s.TakesAsMarked text c := by
  refine ⟨(s.push next).advance, h, Nat.le_succ s.position, ?_⟩
  rw [hmarks, ← wordsBefore_push]
  rfl

theorem takesAsMarked_of_break (h : s.take text c = .ok s.breakWord)
    (hmarks : marks s.quotes (c :: text.drop s.position)
      = none :: marks s.quotes (text.drop s.position)) : s.TakesAsMarked text c := by
  have hbreak : s.breakWord.quotes = s.quotes ∧ s.breakWord.position = s.position := by
    rw [breakWord]
    split
    · exact ⟨rfl, rfl⟩
    · exact ⟨rfl, rfl⟩
  refine ⟨s.breakWord, h, Nat.le_of_eq hbreak.2.symm, ?_⟩
  rw [hmarks, ← wordsBefore_breakWord, outlook, hbreak.1, hbreak.2]

theorem takesAsMarked_of_skip (h : s.take text c = .ok s)
    (hmarks : marks s.quotes (c :: text.drop s.position)
      = marks s.quotes (text.drop s.position)) : s.TakesAsMarked text c := by
  refine ⟨s, h, Nat.le_refl s.position, ?_⟩
  rw [hmarks, outlook]

theorem take_backslash (hq : s.quotes ≠ .single) (h : s.position < text.length) :
    s.take text '\\' = .ok (if s.quotes ≠ .double ∨ IsEscapable text[s.position] then
      (s.push text[s.position]).advance else s.push '\\') := by
  rw [take, if_neg (by simp), if_neg (by simp), if_neg (by simp [hq]), if_pos ⟨rfl, h⟩,
    charAt_of_lt h]
  by_cases hprotected : s.quotes ≠ .double ∨ IsEscapable text[s.position]
  · simp only [if_pos hprotected]
  · simp only [if_neg hprotected]

/-! ### By the quotes in which it stands -/

theorem takesAsMarked_plain (hq : s.quotes = .plain) (c : Char) : s.TakesAsMarked text c := by
  by_cases hsingle : c = '\''
  · subst hsingle
    exact takesAsMarked_of_toggle .single (by simp [take, hq]) (if_neg (by simp [hq]))
      (by rw [hq]; rfl)
  by_cases hdouble : c = '"'
  · subst hdouble
    exact takesAsMarked_of_toggle .double (by simp [take, hq]) (if_neg (by simp [hq]))
      (by rw [hq]; rfl)
  by_cases hback : c = '\\'
  · subst hback
    by_cases hnext : s.position < text.length
    · -- Whatever stands behind the backslash is protected.
      have htake := take_backslash (by simp [hq]) hnext
      rw [if_pos (.inl (by simp [hq]))] at htake
      refine takesAsMarked_of_escape htake ?_
      rw [hq, List.drop_eq_getElem_cons hnext]
      rfl
    · have hend : text.drop s.position = [] := List.drop_of_length_le (Nat.not_lt.1 hnext)
      refine takesAsMarked_of_push (d := '\\') (by simp [take, hq, hnext, IsSeparator]) ?_
      rw [hq, hend]
      rfl
  have hmarks := marks_plain_cons hsingle hdouble hback (text.drop s.position)
  by_cases hseparator : IsSeparator c
  · rw [if_pos hseparator] at hmarks
    refine takesAsMarked_of_break ?_ (by rw [hq, hmarks])
    simp [take, hq, hsingle, hdouble, hback, hseparator]
  · rw [if_neg hseparator] at hmarks
    have hnewline : c ≠ '\n' := fun h ↦ hseparator (.inr h)
    refine takesAsMarked_of_push ?_ (by rw [hq, hmarks])
    simp [take, hq, hsingle, hdouble, hback, hseparator, hnewline]

theorem takesAsMarked_single (hq : s.quotes = .single) (c : Char) : s.TakesAsMarked text c := by
  by_cases hquote : c = '\''
  · subst hquote
    exact takesAsMarked_of_toggle .single (by simp [take, hq]) (if_pos hq)
      (by rw [hq]; rfl)
  have hmarks := marks_single_cons hquote (text.drop s.position)
  by_cases hnewline : c = '\n'
  · rw [if_pos hnewline] at hmarks
    refine takesAsMarked_of_skip ?_ (by rw [hq, hmarks])
    simp [take, hq, hnewline]
  · rw [if_neg hnewline] at hmarks
    refine takesAsMarked_of_push ?_ (by rw [hq, hmarks])
    by_cases hback : c = '\\' <;> simp [take, hq, hquote, hnewline, hback]

theorem takesAsMarked_double (hq : s.quotes = .double) (c : Char) : s.TakesAsMarked text c := by
  by_cases hquote : c = '"'
  · subst hquote
    exact takesAsMarked_of_toggle .double (by simp [take, hq]) (if_pos hq)
      (by rw [hq]; rfl)
  by_cases hback : c = '\\'
  · subst hback
    by_cases hnext : s.position < text.length
    · have hdrop := List.drop_eq_getElem_cons hnext
      have htake := take_backslash (by simp [hq]) hnext
      by_cases hescapable : IsEscapable text[s.position]
      · rw [if_pos (.inr hescapable)] at htake
        refine takesAsMarked_of_escape htake ?_
        rw [hq, hdrop, marks_double_backslash, if_pos hescapable]
      · -- The character behind the backslash is not protected, and is looked at again.
        rw [if_neg (by simp [hq, hescapable])] at htake
        refine takesAsMarked_of_push htake ?_
        rw [hq, hdrop, marks_double_backslash, if_neg hescapable]
    · have hend : text.drop s.position = [] := List.drop_of_length_le (Nat.not_lt.1 hnext)
      refine takesAsMarked_of_push (d := '\\') (by simp [take, hq, hnext]) ?_
      rw [hq, hend]
      rfl
  have hmarks := marks_double_cons hquote hback (text.drop s.position)
  by_cases hnewline : c = '\n'
  · rw [if_pos hnewline] at hmarks
    refine takesAsMarked_of_skip ?_ (by rw [hq, hmarks])
    simp [take, hq, hnewline]
  · rw [if_neg hnewline] at hmarks
    refine takesAsMarked_of_push ?_ (by rw [hq, hmarks])
    by_cases hother : c = '\'' <;> simp [take, hq, hquote, hback, hnewline, hother]

theorem takesAsMarked (text : Text) (s : Scanner) (c : Char) : s.TakesAsMarked text c := by
  cases hq : s.quotes with
  | plain => exact takesAsMarked_plain hq c
  | single => exact takesAsMarked_single hq c
  | double => exact takesAsMarked_double hq c

/-- **A step before the end of the line never asks for too much,** goes on, and leaves the words as
they will be. -/
theorem exists_step_eq (h : s.position < text.length) :
    ∃ s', s.step text = .ok s' ∧ s.position < s'.position ∧ s'.outlook text = s.outlook text := by
  obtain ⟨s', htake, hposition, houtlook⟩ := takesAsMarked text s.advance text[s.position]
  refine ⟨s', ?_, hposition, ?_⟩
  · rw [step, charAt_of_lt h]
    exact htake
  · rw [houtlook, outlook, List.drop_eq_getElem_cons h]
    rfl

theorem position_lt_of_step {s' : Scanner} (hs : s.position < text.length)
    (h : s.step text = .ok s') : s.position < s'.position := by
  obtain ⟨next, hnext, hposition, -⟩ := exists_step_eq hs
  rwa [← Except.ok.inj (hnext.symm.trans h)]

end Scanner

/-! ## Whole lines -/

/-- Scans a line from where a scanner stands to the end: its words, unless it asks for a character
that is not there. -/
def scanFrom (text : Text) (s : Scanner) : Except Halt (List Text) :=
  if _ : s.position < text.length then
    match _ : s.step text with
    | .error halt => .error halt
    | .ok s' => scanFrom text s'
  else .ok s.breakWord.words
termination_by text.length - s.position
decreasing_by
  have hposition := Scanner.position_lt_of_step ‹s.position < text.length› ‹_›
  omega

/-- Scans a line. -/
def scan (text : Text) : Except Halt (List Text) := scanFrom text .start

theorem scanFrom_eq (text : Text) (s : Scanner) : scanFrom text s = .ok (s.outlook text) := by
  fun_induction scanFrom text s with
  | case1 s hs halt h =>
    obtain ⟨s', hstep, -, -⟩ := Scanner.exists_step_eq hs
    exact absurd (hstep.symm.trans h) (by simp)
  | case2 s hs next h ih =>
    obtain ⟨s', hstep, -, houtlook⟩ := Scanner.exists_step_eq hs
    obtain rfl := Except.ok.inj (hstep.symm.trans h)
    rw [ih, houtlook]
  | case3 s hs =>
    have hend : text.drop s.position = [] := List.drop_of_length_le (Nat.not_lt.1 hs)
    have hmarks : marks s.quotes [] = [] := by cases s.quotes <;> rfl
    rw [Scanner.outlook, hend, hmarks, Scanner.wordsBefore_nil]

/-- **A scanner that goes by positions reads every line to its end,** and its words are the words of
the line. -/
theorem scan_eq (text : Text) : scan text = .ok (tokenize text) := by
  rw [scan, scanFrom_eq]
  rfl

end LineShell.Token
