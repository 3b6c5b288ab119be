import LineShell.Proofs.Token.Conservation

/-!
# The end of a line

A line ends where its text ends, and what that means depends on where one stands there. Quotes that
are open are closed by the end just as they would be by their closing quote, and a newline, which is
how lines usually end, adds nothing. There is one exception: a backslash that waits at the end. By
itself it is the last character of the last word, but any character that it can protect takes its
place, and a newline is among these outside of quotes and in double quotes. So the newline that ends
a line comes into a word exactly if the line ends in such a backslash (`tokenize_lineEnd`).
-/

namespace LineShell.Token

/-- The character that closes quotes. -/
def Quotes.closing? : Quotes → Option Char
  | .plain => none
  | .single => some '\''
  | .double => some '"'

/-- Whether a backslash protects a character in quotes of one kind, or outside of them. -/
def Quotes.Protects : Quotes → Char → Prop
  | .plain, _ => True
  | .single, _ => False
  | .double, c => IsEscapable c

namespace Standing

/-- A newline breaks a word or leaves nothing, unless a backslash waits for it. -/
theorem marksOf_newline {st : Standing} (h : ¬ st.IsPending) :
    st.marksOf ['\n'] = [none] ∨ st.marksOf ['\n'] = [] := by
  cases st with
  | plain => exact .inl rfl
  | single | double => exact .inr rfl
  | backslash | doubleBackslash => exact absurd trivial h

/-- A closing quote leaves nothing, unless a backslash waits for it. -/
theorem marksOf_closing {st : Standing} (h : ¬ st.IsPending) {q : Char}
    (hq : q ∈ st.quotes.closing?) : st.marksOf [q] = [] := by
  cases st with
  | plain => exact absurd hq (Option.not_mem_none q)
  | single | double =>
    obtain rfl := Option.mem_some.mp hq
    rfl
  | backslash | doubleBackslash => exact absurd trivial h

/-- A character that is protected stands for itself, and the backslash for nothing. -/
theorem marksOf_protected {st : Standing} (h : st.IsPending) {c : Char}
    (hc : st.quotes.Protects c) : st.marksOf [c] = [some c] := by
  cases st with
  | plain | single | double => exact h.elim
  | backslash => rfl
  | doubleBackslash =>
    have hc : IsEscapable c := hc
    rw [marksOf_doubleBackslash_cons, settle, if_pos hc]
    rfl

theorem held_of_isPending {st : Standing} (h : st.IsPending) : st.held = ['\\'] := by
  cases st with
  | plain | single | double => exact h.elim
  | backslash | doubleBackslash => rfl

/-- Whatever waits, waits for a newline too. -/
theorem protects_newline {st : Standing} (h : st.IsPending) : st.quotes.Protects '\n' := by
  cases st with
  | plain | single | double => exact h.elim
  | backslash => exact trivial
  | doubleBackslash => exact .inr (.inr (.inr (.inr rfl)))

end Standing

/-! ## Where nothing waits -/

/-- What leaves no mark, or a break at most, does not change the words before it. -/
theorem tokenize_append_of_marksOf {s t : Text} (h : ¬ IsPending s)
    (ht : (standing s).marksOf t = [none] ∨ (standing s).marksOf t = []) :
    tokenize (s ++ t) = tokenize s := by
  obtain ⟨ws, w, hs, happend⟩ := exists_tokenize_append s
  rw [happend, hs, Standing.held_eq_nil h, List.append_nil]
  rcases ht with ht | ht
  · rw [ht, wordsOf_append_none, wordsOf_nil, List.append_nil]
  · rw [ht, List.append_nil]

theorem tokenize_append_newline {s : Text} (h : ¬ IsPending s) :
    tokenize (s ++ ['\n']) = tokenize s :=
  tokenize_append_of_marksOf h (Standing.marksOf_newline h)

theorem tokenize_append_closing {s : Text} (h : ¬ IsPending s) {q : Char}
    (hq : q ∈ (standing s).quotes.closing?) : tokenize (s ++ [q]) = tokenize s :=
  tokenize_append_of_marksOf h (.inr (Standing.marksOf_closing h hq))

/-! ## Where a backslash waits -/

/-- A backslash that waits is the end of the last word, and what it protects takes its place. -/
theorem exists_tokenize_of_isPending {s : Text} (h : IsPending s) :
    ∃ (ws : List Text) (w : Text), tokenize s = ws ++ [w ++ ['\\']] ∧
      ∀ c, (standing s).quotes.Protects c → tokenize (s ++ [c]) = ws ++ [w ++ [c]] := by
  obtain ⟨ws, w, hs, happend⟩ := exists_tokenize_append s
  refine ⟨ws, w, ?_, ?_⟩
  · rw [hs, Standing.held_of_isPending h, wordsOf_map_some, if_neg (by simp)]
  · intro c hc
    have hmarks : w.map some ++ [some c] = (w ++ [c]).map some := by rw [List.map_append]; rfl
    rw [happend, Standing.marksOf_protected h hc, hmarks, wordsOf_map_some, if_neg (by simp)]

/-! ## The newline that ends a line -/

theorem newline_not_mem_of_mem_tokenize {s w : Text} (hs : '\n' ∉ s) (hw : w ∈ tokenize s) :
    '\n' ∉ w := by
  intro hmem
  have hflatten : '\n' ∈ (tokenize s).flatten := List.mem_flatten.mpr ⟨w, hw, hmem⟩
  exact hs ((flatten_tokenize_isLeftOf s).sublist.subset hflatten)

theorem exists_newline_mem_tokenize_iff {s : Text} (hs : '\n' ∉ s) :
    (∃ w ∈ tokenize (s ++ ['\n']), '\n' ∈ w) ↔ IsPending s := by
  constructor
  · rintro ⟨w, hw, hmem⟩
    by_contra h
    rw [tokenize_append_newline h] at hw
    exact newline_not_mem_of_mem_tokenize hs hw hmem
  · intro h
    obtain ⟨ws, w, -, happend⟩ := exists_tokenize_of_isPending h
    refine ⟨w ++ ['\n'], ?_, by simp⟩
    rw [happend '\n' (Standing.protects_newline h)]
    simp

/-- **What the end of a line does.** A backslash waits if it is the last character, is not in single
quotes, and is not protected itself. Where none waits, neither a newline nor the quote that closes
open quotes changes the words. Where one waits, it is the end of the last word, and any character
that it protects takes its place there. So the newline that ends a line comes into a word exactly if
a backslash waits for it. -/
theorem tokenize_lineEnd (s : Text) :
    (IsPending s ↔ ∃ t, s = t ++ ['\\'] ∧ (standing t).quotes ≠ .single ∧ ¬ IsPending t) ∧
      (¬ IsPending s → tokenize (s ++ ['\n']) = tokenize s ∧
        ∀ q ∈ (standing s).quotes.closing?, tokenize (s ++ [q]) = tokenize s) ∧
      (IsPending s → ∃ (ws : List Text) (w : Text), tokenize s = ws ++ [w ++ ['\\']] ∧
        ∀ c, (standing s).quotes.Protects c → tokenize (s ++ [c]) = ws ++ [w ++ [c]]) ∧
      ('\n' ∉ s → ((∃ w ∈ tokenize (s ++ ['\n']), '\n' ∈ w) ↔ IsPending s)) :=
  ⟨isPending_iff, fun h ↦ ⟨tokenize_append_newline h, fun _ hq ↦ tokenize_append_closing h hq⟩,
    exists_tokenize_of_isPending, exists_newline_mem_tokenize_iff⟩

example : tokenize "echo 'a\n".toList = ["echo".toList, "a".toList] := by decide

example : tokenize "echo \"a\\\n".toList = ["echo".toList, "a\n".toList] := by decide

end LineShell.Token
