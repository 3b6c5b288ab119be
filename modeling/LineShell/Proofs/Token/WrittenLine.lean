import LineShell.Token.Spelling

/-!
# Written lines

A line can be written for any words, as long as none of them is empty. Each word is spelled in a
way of its own choice (`Spelling`), neighbours are kept apart by one space or more, there may be
spaces at both ends, and the line may end in a newline. Such a line is read as the words that it was
written for (`tokenize_writtenLine`).

## Coming back to plain

What carries the proof is that after each spelled word the line is outside of quotes again, so that
the text behind it is read as if it stood alone. It need only not go on with the word: it is empty
or begins with a separator (`Breaks`).
-/

namespace LineShell.Token

namespace Spelling

/-! ## The three ways to write a word -/

theorem spell_escaped (w : Text) : escaped.spell w = w.flatMap fun c ↦ ['\\', c] := by
  rw [spell, items, List.flatMap_map]
  rfl

theorem spell_double (w : Text) :
    double.spell w
      = '"' :: (w.flatMap fun c ↦ if IsEscapable c then ['\\', c] else [c]) ++ ['"'] := by
  have hinner : ∀ c, (inner c).render = if IsEscapable c then ['\\', c] else [c] := by
    intro c
    rw [inner]
    split <;> rfl
  rw [spell, items, List.flatMap_singleton, Item.render, List.flatMap_map]
  simp only [hinner]

theorem spell_single (w : Text) : single.spell w = '\'' :: w ++ ['\''] := by
  rw [spell, items, List.flatMap_singleton]
  rfl

end Spelling

/-! ## Lines for words -/

/-- A word together with how it is written. -/
structure Written where
  /-- The word. -/
  word : Text
  /-- The way in which it is spelled. -/
  spelling : Spelling
  /-- How many spaces more than one keep it apart from the word before it. -/
  gap : Nat
  /-- There is no way to write a word without characters. -/
  ne_nil : word ≠ []
  /-- The word can be written in that way. -/
  allows : spelling.Allows word

/-- A word as it is written. -/
def Written.text (w : Written) : Text := w.spelling.spell w.word

/-- The words behind the first as they are written, each behind its spaces. -/
def writtenBehind (ws : List Written) : Text :=
  ws.flatMap fun w ↦ List.replicate (w.gap + 1) ' ' ++ w.text

/-- The words as they are written, without anything at the ends. -/
def writtenWords : List Written → Text
  | [] => []
  | w :: ws => w.text ++ writtenBehind ws

/-- What stands behind the last word: spaces, and the newline that ends the line, if one does. -/
def writtenEnd (spaces : Nat) (ended : Bool) : Text :=
  List.replicate spaces ' ' ++ if ended then ['\n'] else []

/-- A line for words, with the numbers of spaces at its two ends. -/
def writtenLine (lead : Nat) (ws : List Written) (trail : Nat) (ended : Bool) : Text :=
  List.replicate lead ' ' ++ (writtenWords ws ++ writtenEnd trail ended)

/-! ## Between words -/

/-- Whether a text does not go on with a word that stands before it. -/
def Breaks (t : Text) : Prop := ∀ c ∈ t.head?, IsSeparator c

theorem tokenize_replicate_append (n : Nat) (t : Text) :
    tokenize (List.replicate n ' ' ++ t) = tokenize t := by
  induction n with
  | zero => rfl
  | succ n ih =>
    rw [List.replicate_succ, List.cons_append]
    exact ih

theorem breaks_replicate_append (n : Nat) {t : Text} (h : Breaks t) :
    Breaks (List.replicate n ' ' ++ t) := by
  rcases n with _ | n
  · exact h
  · rintro c hc
    obtain rfl : ' ' = c := by simpa [List.replicate_succ] using hc
    exact .inl rfl

theorem breaks_writtenEnd (spaces : Nat) (ended : Bool) : Breaks (writtenEnd spaces ended) := by
  refine breaks_replicate_append spaces fun c hc ↦ ?_
  rcases ended with _ | _
  · simp at hc
  · obtain rfl : '\n' = c := by simpa using hc
    exact .inr rfl

theorem breaks_writtenBehind (ws : List Written) {t : Text} (h : Breaks t) :
    Breaks (writtenBehind ws ++ t) := by
  rcases ws with _ | ⟨w, ws⟩
  · exact h
  · rintro c hc
    obtain rfl : ' ' = c := by simpa [writtenBehind, List.replicate_succ] using hc
    exact .inl rfl

theorem tokenize_writtenEnd (spaces : Nat) (ended : Bool) :
    tokenize (writtenEnd spaces ended) = [] := by
  rw [writtenEnd, tokenize_replicate_append]
  rcases ended with _ | _ <;> rfl

/-! ## Reading what was written -/

/-- A written word is read as itself, and what stands behind it as if it stood alone. -/
theorem Written.tokenize_text_append (w : Written) {t : Text} (h : Breaks t) :
    tokenize (w.text ++ t) = w.word :: tokenize t := by
  -- Either the word is the last thing in the line, or a separator ends it.
  rcases t with _ | ⟨c, t⟩
  · rw [List.append_nil, text, Spelling.tokenize_spell w.allows, if_neg w.ne_nil]
    rfl
  · have hc : IsSeparator c := h c rfl
    have hskip : tokenize (c :: t) = tokenize t := by rcases hc with rfl | rfl <;> rfl
    rw [text, Spelling.tokenize_spell_append w.allows w.ne_nil hc, hskip]

theorem tokenize_writtenBehind_append (ws : List Written) {t : Text} (h : Breaks t) :
    tokenize (writtenBehind ws ++ t) = ws.map Written.word ++ tokenize t := by
  induction ws with
  | nil => rfl
  | cons w ws ih =>
    have hsplit : writtenBehind (w :: ws) ++ t
        = List.replicate (w.gap + 1) ' ' ++ (w.text ++ (writtenBehind ws ++ t)) := by
      simp [writtenBehind]
    rw [hsplit, tokenize_replicate_append,
      w.tokenize_text_append (breaks_writtenBehind ws h), ih]
    rfl

/-- **A line that is written for some words is read as those words.** -/
theorem tokenize_writtenLine (lead : Nat) (ws : List Written) (trail : Nat) (ended : Bool) :
    tokenize (writtenLine lead ws trail ended) = ws.map Written.word := by
  have hend := breaks_writtenEnd trail ended
  rw [writtenLine, tokenize_replicate_append]
  rcases ws with _ | ⟨w, ws⟩
  · exact tokenize_writtenEnd trail ended
  · rw [writtenWords, List.append_assoc, w.tokenize_text_append (breaks_writtenBehind ws hend),
      tokenize_writtenBehind_append ws hend, tokenize_writtenEnd, List.append_nil]
    rfl

end LineShell.Token
