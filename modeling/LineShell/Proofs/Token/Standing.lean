import LineShell.Token
import Mathlib.Data.List.Induction

/-!
# Where one stands in a line

What a character means depends on all that stands before it, but only through five cases: outside of
quotes, in single quotes, in double quotes, and in the first and the last of these also behind a
backslash that waits for the character that it may protect (`Standing`). So a line can be cut
anywhere. The part before the cut settles some marks, and the part behind it is read from where the
first one stands, with the backslash that waits, if there is one (`marks_append`).

The main statement is `tokenize_append`. All words of a part but its last are words of every line
that begins with it, and where a part ends outside of quotes and nothing waits, a separator keeps
what follows apart from it.

## Finished words and the word that has been begun

Marks, too, are left by a cut in a state of their own: the words that are finished, and the
characters of the one that has been begun (`exists_wordsOf_append`). What is behind the cut can go
on with the latter and cannot reach the former.
-/

namespace LineShell.Token

/-- Where one stands behind a part of a line. -/
inductive Standing where
  /-- Outside of quotes. -/
  | plain
  /-- Outside of quotes, behind a backslash that waits. -/
  | backslash
  /-- In single quotes. -/
  | single
  /-- In double quotes. -/
  | double
  /-- In double quotes, behind a backslash that waits. -/
  | doubleBackslash
  deriving DecidableEq, Repr

namespace Standing

/-- The quotes in which one stands. -/
def quotes : Standing → Quotes
  | .plain | .backslash => .plain
  | .single => .single
  | .double | .doubleBackslash => .double

/-- Whether a backslash waits for the character that it may protect. -/
def IsPending : Standing → Prop
  | .backslash | .doubleBackslash => True
  | .plain | .single | .double => False

instance : DecidablePred IsPending := fun st ↦ by cases st <;> unfold IsPending <;> infer_instance

/-- What has been read without being settled: the backslash that waits. -/
def held : Standing → Text
  | .backslash | .doubleBackslash => ['\\']
  | .plain | .single | .double => []

/-- Where one stands behind one more character. -/
def pass : Standing → Char → Standing
  | .plain, c =>
    if c = '\'' then .single else if c = '"' then .double else if c = '\\' then .backslash
    else .plain
  | .backslash, _ => .plain
  | .single, c => if c = '\'' then .plain else .single
  | .double, c => if c = '"' then .plain else if c = '\\' then .doubleBackslash else .double
  | .doubleBackslash, _ => .double

/-- The marks that one more character settles. -/
def settle : Standing → Char → List Mark
  | .plain, c =>
    if c = '\'' ∨ c = '"' ∨ c = '\\' then [] else [if IsSeparator c then none else some c]
  | .backslash, c => [some c]
  | .single, c => if c = '\'' ∨ c = '\n' then [] else [some c]
  | .double, c => if c = '"' ∨ c = '\\' ∨ c = '\n' then [] else [some c]
  | .doubleBackslash, c => if IsEscapable c then [some c] else [some '\\', some c]

/-- The marks that are still to come if a text follows. -/
def marksOf (st : Standing) (t : Text) : List Mark := marks st.quotes (st.held ++ t)

/-! ## One character -/

theorem held_eq_nil {st : Standing} (h : ¬ st.IsPending) : st.held = [] := by
  cases st with
  | plain | single | double => rfl
  | backslash | doubleBackslash => exact absurd trivial h

theorem eq_plain_of_quotes {st : Standing} (hquotes : st.quotes = .plain)
    (hpending : ¬ st.IsPending) : st = .plain := by
  cases st with
  | plain => rfl
  | backslash | doubleBackslash => exact absurd trivial hpending
  | single | double => exact absurd hquotes (by decide)

/-- A backslash waits unless it stands in single quotes or is protected itself. -/
theorem isPending_pass_iff {st : Standing} {c : Char} :
    (st.pass c).IsPending ↔ c = '\\' ∧ st.quotes ≠ .single ∧ ¬ st.IsPending := by
  cases st <;> grind [pass, IsPending, quotes]

/-- A backslash that waits at the end of a line stands for itself. -/
theorem marksOf_nil (st : Standing) : st.marksOf [] = st.held.map some := by
  cases st <;> rfl

theorem marksOf_plain_cons (c : Char) (t : Text) :
    plain.marksOf (c :: t) = plain.settle c ++ (plain.pass c).marksOf t := by
  rw [pass, settle]
  by_cases hs : c = '\''
  · subst hs
    rfl
  by_cases hd : c = '"'
  · subst hd
    rfl
  -- What a backslash does is left to the character behind it.
  by_cases hb : c = '\\'
  · subst hb
    rfl
  rw [if_neg hs, if_neg hd, if_neg hb, if_neg (by simp [hs, hd, hb])]
  exact marks_plain_cons hs hd hb t

theorem marksOf_single_cons (c : Char) (t : Text) :
    single.marksOf (c :: t) = single.settle c ++ (single.pass c).marksOf t := by
  rw [pass, settle]
  by_cases hs : c = '\''
  · subst hs
    rfl
  have hmarks := marks_single_cons hs t
  by_cases hn : c = '\n'
  · rw [if_neg hs, if_pos (.inr hn)]
    rwa [if_pos hn] at hmarks
  · rw [if_neg hs, if_neg (by simp [hs, hn])]
    rwa [if_neg hn] at hmarks

theorem marksOf_double_cons (c : Char) (t : Text) :
    double.marksOf (c :: t) = double.settle c ++ (double.pass c).marksOf t := by
  rw [pass, settle]
  by_cases hd : c = '"'
  · subst hd
    rfl
  by_cases hb : c = '\\'
  · subst hb
    rfl
  have hmarks := marks_double_cons hd hb t
  by_cases hn : c = '\n'
  · rw [if_neg hd, if_neg hb, if_pos (.inr (.inr hn))]
    rwa [if_pos hn] at hmarks
  · rw [if_neg hd, if_neg hb, if_neg (by simp [hd, hb, hn])]
    rwa [if_neg hn] at hmarks

theorem marksOf_doubleBackslash_cons (c : Char) (t : Text) :
    doubleBackslash.marksOf (c :: t) = doubleBackslash.settle c ++ double.marksOf t := by
  change marks .double ('\\' :: c :: t) = _
  rw [marks_double_backslash, settle]
  by_cases hc : IsEscapable c
  · rw [if_pos hc, if_pos hc]
    rfl
  · -- What is not protected is neither a quote nor a backslash, and so means itself.
    have hd : c ≠ '"' := fun h ↦ hc (by simp [IsEscapable, h])
    have hb : c ≠ '\\' := fun h ↦ hc (by simp [IsEscapable, h])
    have hn : c ≠ '\n' := fun h ↦ hc (by simp [IsEscapable, h])
    rw [if_neg hc, if_neg hc, marks_double_cons hd hb, if_neg hn]
    rfl

/-- **A character settles its marks,** and what follows is read from where one stands behind it. -/
theorem marksOf_cons (st : Standing) (c : Char) (t : Text) :
    st.marksOf (c :: t) = st.settle c ++ (st.pass c).marksOf t := by
  cases st with
  | plain => exact marksOf_plain_cons c t
  | backslash => rfl
  | single => exact marksOf_single_cons c t
  | double => exact marksOf_double_cons c t
  | doubleBackslash => exact marksOf_doubleBackslash_cons c t

/-! ## Texts -/

/-- Where one stands behind a text. -/
def behind (st : Standing) (t : Text) : Standing := t.foldl pass st

/-- The marks that a text settles. -/
def settled : Standing → Text → List Mark
  | _, [] => []
  | st, c :: t => st.settle c ++ settled (st.pass c) t

theorem behind_append_singleton (st : Standing) (t : Text) (c : Char) :
    st.behind (t ++ [c]) = (st.behind t).pass c := by
  rw [behind, List.foldl_append]
  rfl

/-- What a text does not settle is read together with what follows it. -/
theorem marksOf_append (st : Standing) (s t : Text) :
    st.marksOf (s ++ t) = st.settled s ++ (st.behind s).marksOf t := by
  induction s generalizing st with
  | nil => rfl
  | cons c s ih =>
    rw [List.cons_append, marksOf_cons, ih, settled, List.append_assoc]
    rfl

end Standing

/-! ## Lines -/

/-- Where one stands at the end of a line. -/
def standing (s : Text) : Standing := Standing.plain.behind s

/-- Whether a line ends in a backslash that waits for a character to protect. -/
def IsPending (s : Text) : Prop := (standing s).IsPending

instance : DecidablePred IsPending := fun s ↦ inferInstanceAs (Decidable (standing s).IsPending)

/-- **A line can be cut anywhere.** Its first part settles marks of its own, and its second part is
read from where the first one stands. -/
theorem marks_append (s t : Text) :
    marks .plain (s ++ t) = Standing.plain.settled s ++ (standing s).marksOf t :=
  Standing.plain.marksOf_append s t

/-- A backslash waits if it is the last character, not in single quotes, and no backslash before it
waits for it. -/
theorem isPending_iff {s : Text} :
    IsPending s ↔ ∃ t, s = t ++ ['\\'] ∧ (standing t).quotes ≠ .single ∧ ¬ IsPending t := by
  rcases List.eq_nil_or_concat s with rfl | ⟨t, c, rfl⟩
  · simp [IsPending, standing, Standing.behind, Standing.IsPending]
  · have hpass : IsPending (t ++ [c])
        ↔ c = '\\' ∧ (standing t).quotes ≠ .single ∧ ¬ IsPending t := by
      rw [IsPending, standing, Standing.behind_append_singleton]
      exact Standing.isPending_pass_iff
    rw [List.concat_eq_append, hpass]
    constructor
    · rintro ⟨rfl, hquotes, hpending⟩
      exact ⟨t, rfl, hquotes, hpending⟩
    · rintro ⟨t', heq, hquotes, hpending⟩
      obtain ⟨rfl, hc⟩ := List.append_inj' heq rfl
      exact ⟨(List.cons.inj hc).1, hquotes, hpending⟩

/-! ## Words -/

/-- Marks finish some words and begin one, whatever follows them. -/
theorem exists_wordsOf_append (ms : List Mark) :
    ∃ (ws : List Text) (w : Text), ∀ ns, wordsOf (ms ++ ns) = ws ++ wordsOf (w.map some ++ ns) := by
  induction ms using List.reverseRecOn with
  | nil => exact ⟨[], [], fun ns ↦ rfl⟩
  | append_singleton ms m ih =>
    cases m with
    | none =>
      refine ⟨wordsOf ms, [], fun ns ↦ ?_⟩
      rw [List.append_assoc]
      exact wordsOf_append_none ms ns
    | some c =>
      obtain ⟨ws, w, hwords⟩ := ih
      refine ⟨ws, w ++ [c], fun ns ↦ ?_⟩
      rw [List.append_assoc, hwords, List.map_append, List.append_assoc]
      rfl

/-- A line has finished some words and begun one. What is read behind it can go on with that one,
and so can the backslash that waits. -/
theorem exists_tokenize_append (s : Text) :
    ∃ (ws : List Text) (w : Text),
      tokenize s = ws ++ wordsOf ((w ++ (standing s).held).map some) ∧
      ∀ t, tokenize (s ++ t) = ws ++ wordsOf (w.map some ++ (standing s).marksOf t) := by
  obtain ⟨ws, w, hwords⟩ := exists_wordsOf_append (Standing.plain.settled s)
  have happend (t : Text) :
      tokenize (s ++ t) = ws ++ wordsOf (w.map some ++ (standing s).marksOf t) := by
    rw [tokenize, marks_append, hwords]
  refine ⟨ws, w, ?_, happend⟩
  rw [List.map_append, ← Standing.marksOf_nil, ← happend, List.append_nil]

/-- **Words are told from left to right.** What stands behind a part of a line does not change any
word of that part but its last; and a separator behind a part that ends outside of quotes, with no
backslash that waits, keeps the words of both sides apart. -/
theorem tokenize_append (a b : Text) :
    (∀ i, i + 1 < (tokenize a).length → (tokenize (a ++ b))[i]? = (tokenize a)[i]?) ∧
      ((standing a).quotes = .plain → ¬ IsPending a → ∀ c, IsSeparator c →
        tokenize (a ++ c :: b) = tokenize a ++ tokenize b) := by
  obtain ⟨ws, w, ha, happend⟩ := exists_tokenize_append a
  constructor
  · intro i hi
    -- Whatever has been begun is one word at most, so the finished ones reach beyond `i`.
    have hlast : (wordsOf ((w ++ (standing a).held).map some)).length ≤ 1 := by
      rw [wordsOf_map_some]
      split <;> simp
    have hws : i < ws.length := by
      rw [ha, List.length_append] at hi
      omega
    rw [happend, ha, List.getElem?_append_left hws, List.getElem?_append_left hws]
  · intro hquotes hpending c hc
    have hplain : standing a = .plain := Standing.eq_plain_of_quotes hquotes hpending
    have hmarks : (standing a).marksOf (c :: b) = none :: marks .plain b := by
      rw [hplain]
      rcases hc with rfl | rfl <;> rfl
    rw [happend, hmarks, wordsOf_append_none, ← List.append_assoc, ha, hplain, Standing.held,
      List.append_nil]
    rfl

end LineShell.Token
