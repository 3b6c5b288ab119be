import LineShell.Proofs.Token.Conservation

/-!
# Words that are written as they are

A word can be put into a line as it is, with a space behind it, if it has no special character: it
is then read as itself. That is the only case (`head?_tokenize_append_space_iff`), although a line
does not have to say less than it seems to. Quotes that are never closed and a backslash at the end
take the space into the word, and make up in length for what they lose.

What settles it is the first special character. It is lost if anything stands behind it
(`sublist_of_isSpecial`), so if the word is read all the same, then from what stands behind it, and
the two differ by one place: each character is the next one, up to the space at the end. So the
special character is a space. But a space ends a word, and is lost once more.
-/

namespace LineShell.Token

variable {c d : Char} {w s t u : Text}

/-! ## Words without special characters -/

theorem marks_plain_append (h : ∀ c ∈ w, ¬ IsSpecial c) (t : Text) :
    marks .plain (w ++ t) = w.map some ++ marks .plain t := by
  induction w with
  | nil => rfl
  | cons c w ih =>
    obtain ⟨hc, hw⟩ := List.forall_mem_cons.1 h
    simp only [IsSpecial, not_or] at hc
    obtain ⟨hseparator, hsingle, hdouble, hbackslash⟩ := hc
    rw [List.cons_append, marks_plain_cons hsingle hdouble hbackslash, if_neg hseparator, ih hw]
    rfl

theorem tokenize_append_space (hw : w ≠ []) (h : ∀ c ∈ w, ¬ IsSpecial c) :
    tokenize (w ++ [' ']) = [w] := by
  have hspace : marks .plain [' '] = [none] := rfl
  rw [tokenize, marks_plain_append h, hspace, wordsOf_append_none, wordsOf_map_some, if_neg hw]
  rfl

/-! ## A special character -/

theorem reduceOption_marks_sublist (q : Quotes) (t : Text) :
    (marks q t).reduceOption.Sublist t := by
  cases q with
  | plain => exact (Standing.plain.marksOf_isLeftOf t).sublist
  | single => exact (Standing.single.marksOf_isLeftOf t).sublist
  | double => exact (Standing.double.marksOf_isLeftOf t).sublist

/-- A special character that stands outside of quotes and is not the last one is lost. -/
theorem sublist_of_isSpecial (hc : IsSpecial c) (ht : t ≠ []) :
    (marks .plain (c :: t)).reduceOption.Sublist t := by
  rcases hc with (rfl | rfl) | rfl | rfl | rfl
  · exact reduceOption_marks_sublist .plain t
  · exact reduceOption_marks_sublist .plain t
  · exact reduceOption_marks_sublist .single t
  · exact reduceOption_marks_sublist .double t
  · -- The character behind the backslash comes in its place.
    obtain ⟨d, t, rfl⟩ := List.exists_cons_of_ne_nil ht
    exact (reduceOption_marks_sublist .plain t).cons_cons d

/-- A text that is moved by one place, and otherwise the same, has one character throughout. -/
theorem eq_of_cons_eq_append_singleton (h : c :: s = s ++ [d]) : c = d := by
  induction s generalizing c with
  | nil => exact (List.cons.inj h).1
  | cons a s ih =>
    obtain ⟨rfl, hrest⟩ := List.cons.inj h
    exact ih hrest

/-- A special character is not read as itself from a word with a space behind it. -/
theorem reduceOption_marks_ne (hc : IsSpecial c) :
    (marks .plain (c :: (s ++ [' ']))).reduceOption ≠ c :: (s ++ u) := by
  intro h
  have hlost : (c :: (s ++ u)).Sublist (s ++ [' ']) := by
    rw [← h]
    exact sublist_of_isSpecial hc (by simp)
  have hmoved : c :: s = s ++ [' '] := by
    have hfirst : (c :: s).Sublist (s ++ [' ']) :=
      (((List.sublist_append_left s u).cons_cons c).trans hlost)
    exact hfirst.eq_of_length (by simp)
  obtain rfl := eq_of_cons_eq_append_singleton hmoved
  -- The space at the beginning is lost, and so is the one that stands there afterwards.
  have htwice : (marks .plain (' ' :: (s ++ [' ']))).reduceOption = (marks .plain s).reduceOption := by
    rw [← hmoved]
    rfl
  have hshort := (reduceOption_marks_sublist .plain s).length_le
  rw [← htwice, h, List.length_cons, List.length_append] at hshort
  omega

/-- Whatever is read as a word with a space behind it, and perhaps more, has no special
character. -/
theorem not_isSpecial_of_reduceOption_marks
    (h : (marks .plain (w ++ [' '])).reduceOption = w ++ u) : ∀ c ∈ w, ¬ IsSpecial c := by
  induction w with
  | nil =>
    intro c hc
    exact absurd hc List.not_mem_nil
  | cons c w ih =>
    by_cases hc : IsSpecial c
    · exact absurd h (reduceOption_marks_ne hc)
    · have hcons : marks .plain (c :: (w ++ [' '])) = some c :: marks .plain (w ++ [' ']) :=
        marks_plain_append (w := [c]) (by simpa using hc) (w ++ [' '])
      rw [List.cons_append, hcons, List.reduceOption_cons_of_some, List.cons_append] at h
      exact List.forall_mem_cons.2 ⟨hc, ih (List.cons.inj h).2⟩

/-! ## Words with a space behind them -/

/-- **A word that is written as it is, with a space behind it, is the first word of its line exactly
if it has no special character.** -/
theorem head?_tokenize_append_space_iff (hw : w ≠ []) :
    (tokenize (w ++ [' '])).head? = some w ↔ ∀ c ∈ w, ¬ IsSpecial c := by
  constructor
  · intro h
    obtain ⟨rest, hwords⟩ := List.head?_eq_some_iff.1 h
    refine not_isSpecial_of_reduceOption_marks (u := rest.flatten) ?_
    rw [← flatten_wordsOf]
    exact congrArg List.flatten hwords
  · intro h
    rw [tokenize_append_space hw h]
    rfl

/-- It is then the only one. -/
theorem tokenize_append_space_eq_iff (hw : w ≠ []) :
    tokenize (w ++ [' ']) = [w] ↔ ∀ c ∈ w, ¬ IsSpecial c := by
  refine ⟨fun h ↦ ?_, tokenize_append_space hw⟩
  rw [← head?_tokenize_append_space_iff hw, h]
  rfl

end LineShell.Token
