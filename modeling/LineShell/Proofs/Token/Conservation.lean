import LineShell.Proofs.Token.Standing
import Mathlib.Data.List.ReduceOption

/-!
# Words are what is left of a line

The words of a line, put together, are the line without some of its characters, and these are
separators, quotes and backslashes. So nothing that stands for itself only is lost, whatever the
quoting and however malformed the line, and nothing comes in that was not there
(`tokenize_isLeftOf`).

What carries the proof is that each character keeps this balance: what it settles, with the
backslash that waits behind it, is left of the backslash that waited before it and itself
(`Standing.settle_isLeftOf`).
-/

namespace LineShell.Token

/-- The characters that can be used in a line for something else than themselves. -/
def IsSpecial (c : Char) : Prop := IsSeparator c ∨ c = '\'' ∨ c = '"' ∨ c = '\\'

instance (c : Char) : Decidable (IsSpecial c) := inferInstanceAs (Decidable (_ ∨ _))

/-- A text without its special characters. -/
def ordinary (t : Text) : Text := t.filter (¬ IsSpecial ·)

theorem ordinary_append (s t : Text) : ordinary (s ++ t) = ordinary s ++ ordinary t :=
  List.filter_append ..

/-! ## What is left of a text -/

/-- Whether a text is left of another when some special characters have been taken away. -/
structure IsLeftOf (u t : Text) : Prop where
  /-- All that is left was there, in this order. -/
  sublist : u.Sublist t
  /-- What is not special is left. -/
  ordinary_eq : ordinary u = ordinary t

namespace IsLeftOf

variable {u u' t t' v : Text}

theorem refl (t : Text) : IsLeftOf t t := ⟨.refl t, rfl⟩

theorem trans (h : IsLeftOf u t) (h' : IsLeftOf t v) : IsLeftOf u v :=
  ⟨h.sublist.trans h'.sublist, h.ordinary_eq.trans h'.ordinary_eq⟩

theorem append (h : IsLeftOf u t) (h' : IsLeftOf u' t') : IsLeftOf (u ++ u') (t ++ t') := by
  refine ⟨h.sublist.append h'.sublist, ?_⟩
  rw [ordinary_append, ordinary_append, h.ordinary_eq, h'.ordinary_eq]

theorem of_isSpecial {c : Char} (hc : IsSpecial c) : IsLeftOf [] [c] := by
  refine ⟨List.nil_sublist _, ?_⟩
  simp [ordinary, hc]

end IsLeftOf

/-! ## One character, and all of them -/

namespace Standing

theorem isLeftOf_quoting {c : Char} (hc : c = '\'' ∨ c = '"' ∨ c = '\\' ∨ c = '\n') :
    IsLeftOf [] [c] := by
  rcases hc with rfl | rfl | rfl | rfl <;> exact .of_isSpecial (by decide)

/-- A backslash that protects a character is lost. -/
theorem isLeftOf_protected (c : Char) : IsLeftOf [c] ['\\', c] :=
  (isLeftOf_quoting (.inr (.inr (.inl rfl)))).append (.refl [c])

theorem settle_plain_isLeftOf (c : Char) :
    IsLeftOf ((plain.settle c).reduceOption ++ (plain.pass c).held) [c] := by
  rw [settle, pass]
  by_cases hs : c = '\''
  · subst hs
    exact isLeftOf_quoting (by simp)
  by_cases hd : c = '"'
  · subst hd
    exact isLeftOf_quoting (by simp)
  -- A backslash is not lost yet: it waits.
  by_cases hb : c = '\\'
  · subst hb
    exact .refl _
  rw [if_neg (by simp [hs, hd, hb]), if_neg hs, if_neg hd, if_neg hb]
  by_cases hc : IsSeparator c
  · rw [if_pos hc]
    exact .of_isSpecial (.inl hc)
  · rw [if_neg hc]
    exact .refl [c]

theorem settle_single_isLeftOf (c : Char) :
    IsLeftOf ((single.settle c).reduceOption ++ (single.pass c).held) [c] := by
  rw [settle, pass]
  by_cases hc : c = '\'' ∨ c = '\n'
  · rw [if_pos hc]
    rcases hc with rfl | rfl <;> exact isLeftOf_quoting (by simp)
  · rw [if_neg hc, if_neg (fun hs ↦ hc (.inl hs))]
    exact .refl [c]

theorem settle_double_isLeftOf (c : Char) :
    IsLeftOf ((double.settle c).reduceOption ++ (double.pass c).held) [c] := by
  rw [settle, pass]
  by_cases hb : c = '\\'
  · subst hb
    exact .refl _
  by_cases hc : c = '"' ∨ c = '\n'
  · rcases hc with rfl | rfl <;> exact isLeftOf_quoting (by simp)
  · rw [not_or] at hc
    rw [if_neg (by simp [hb, hc]), if_neg hc.1, if_neg hb]
    exact .refl [c]

theorem settle_doubleBackslash_isLeftOf (c : Char) :
    IsLeftOf (doubleBackslash.settle c).reduceOption ['\\', c] := by
  rw [settle]
  by_cases hc : IsEscapable c
  · rw [if_pos hc]
    exact isLeftOf_protected c
  · -- Where nothing is protected, the backslash is settled with the character.
    rw [if_neg hc]
    exact .refl ['\\', c]

/-- **A character is lost only if it is special,** and none is added. -/
theorem settle_isLeftOf (st : Standing) (c : Char) :
    IsLeftOf ((st.settle c).reduceOption ++ (st.pass c).held) (st.held ++ [c]) := by
  cases st with
  | plain => exact settle_plain_isLeftOf c
  | backslash => exact isLeftOf_protected c
  | single => exact settle_single_isLeftOf c
  | double => exact settle_double_isLeftOf c
  | doubleBackslash =>
    have hsettle := settle_doubleBackslash_isLeftOf c
    rwa [← List.append_nil (doubleBackslash.settle c).reduceOption] at hsettle

theorem settled_isLeftOf (st : Standing) (t : Text) :
    IsLeftOf ((st.settled t).reduceOption ++ (st.behind t).held) (st.held ++ t) := by
  induction t generalizing st with
  | nil => exact (List.append_nil st.held).symm ▸ .refl st.held
  | cons c t ih =>
    have hrest : IsLeftOf ((st.settle c).reduceOption
        ++ (((st.pass c).settled t).reduceOption ++ ((st.pass c).behind t).held))
        ((st.settle c).reduceOption ++ ((st.pass c).held ++ t)) := (IsLeftOf.refl _).append (ih _)
    have hfirst := (st.settle_isLeftOf c).append (.refl t)
    rw [List.append_assoc, List.append_assoc] at hfirst
    rw [settled, List.reduceOption_append, List.append_assoc]
    exact hrest.trans hfirst

/-- The characters of the marks that are still to come are left of what waits and what follows. -/
theorem marksOf_isLeftOf (st : Standing) (t : Text) :
    IsLeftOf (st.marksOf t).reduceOption (st.held ++ t) := by
  have hmarks : st.marksOf t = st.settled t ++ (st.behind t).held.map some := by
    rw [← marksOf_nil, ← marksOf_append, List.append_nil]
  have hheld : ((st.behind t).held.map some).reduceOption = (st.behind t).held := by
    rw [List.reduceOption, List.filterMap_map]
    exact List.filterMap_some
  rw [hmarks, List.reduceOption_append, hheld]
  exact st.settled_isLeftOf t

end Standing

/-! ## Lines -/

/-- Words have the characters of the marks that they are formed from. -/
theorem flatten_wordsOf (ms : List Mark) : (wordsOf ms).flatten = ms.reduceOption := by
  have hwords (ms : List Mark) : (wordsOf ms).flatten = (gather ms).1 ++ (gather ms).2.flatten := by
    rw [wordsOf]
    split
    · next hnil => rw [hnil, List.nil_append]
    · rw [List.flatten_cons]
  induction ms with
  | nil => rfl
  | cons m ms ih =>
    cases m with
    | none => rw [wordsOf_none_cons, ih, List.reduceOption_cons_of_none]
    | some c =>
      rw [hwords, gather_some_cons, List.cons_append, ← hwords, ih,
        List.reduceOption_cons_of_some]

theorem flatten_tokenize_isLeftOf (s : Text) : IsLeftOf (tokenize s).flatten s := by
  rw [tokenize, flatten_wordsOf]
  exact Standing.plain.marksOf_isLeftOf s

/-- **Nothing but quoting and separators is lost, and nothing is added.** No word is empty, the
words put together are a part of the line in its order, and without the special characters they are
the line without them. -/
theorem tokenize_isLeftOf (s : Text) :
    (∀ w ∈ tokenize s, w ≠ []) ∧ (tokenize s).flatten.Sublist s ∧
      (tokenize s).flatten.filter (¬ IsSpecial ·) = s.filter (¬ IsSpecial ·) := by
  have hleft := flatten_tokenize_isLeftOf s
  exact ⟨fun w hw ↦ ne_nil_of_mem_tokenize hw, hleft.sublist, hleft.ordinary_eq⟩

end LineShell.Token
