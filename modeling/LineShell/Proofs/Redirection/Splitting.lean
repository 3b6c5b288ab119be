import LineShell.Redirection

/-!
# Where words are split

Words have one of three shapes: no operator, a first operator that is the last word, or a first
operator with a word behind it (`operator_cases`). Only in the third something is taken out, so
splitting always succeeds (`exists_splitRedirection_eq`), and it leaves no operator among the
arguments where there was none beside the one that it took (`splitRedirection_append`).

What splitting gives is thereby known from the words alone: a target exactly if they have the third
shape (`splitRedirection_eq_some_iff`), and none exactly if no word but the last is an operator
(`splitRedirection_eq_none_iff`).
-/

namespace LineShell

/-- The shapes of words, by their first operator. -/
theorem operator_cases (words : List Text) :
    (∀ w ∈ words, ¬ IsOperator w) ∨
      (∃ pre op, words = pre ++ [op] ∧ (∀ w ∈ pre, ¬ IsOperator w) ∧ IsOperator op) ∨
      ∃ pre op target post, words = pre ++ op :: target :: post ∧
        (∀ w ∈ pre, ¬ IsOperator w) ∧ IsOperator op := by
  cases hfirst : words.find? fun w ↦ IsOperator w with
  | none =>
    left
    simpa [List.find?_eq_none] using hfirst
  | some op =>
    right
    obtain ⟨hop, pre, rest, rfl, hpre⟩ := List.find?_eq_some_iff_append.1 hfirst
    have hop : IsOperator op := of_decide_eq_true hop
    have hpre : ∀ w ∈ pre, ¬ IsOperator w := fun w hw ↦ by simpa using hpre w hw
    cases rest with
    | nil => exact .inl ⟨pre, op, rfl, hpre, hop⟩
    | cons target post => exact .inr ⟨pre, op, target, post, rfl, hpre, hop⟩

theorem exists_splitRedirection_eq (words : List Text) :
    ∃ args target, splitRedirection words = .ok (args, target) := by
  rcases operator_cases words with
    h | ⟨pre, op, rfl, hpre, hop⟩ | ⟨pre, op, t, post, rfl, hpre, hop⟩
  · exact ⟨_, _, splitRedirection_of_forall_not h⟩
  · exact ⟨_, _, splitRedirection_append_singleton hpre hop⟩
  · exact ⟨_, _, splitRedirection_append hpre hop⟩

/-- Whether some words are arguments and, somewhere among them, a redirection to a target: an
operator with the target behind it and no operator before it. -/
def RedirectsTo (words args : List Text) (target : Text) : Prop :=
  ∃ pre op post, words = pre ++ op :: target :: post ∧ args = pre ++ post ∧
    (∀ w ∈ pre, ¬ IsOperator w) ∧ IsOperator op

/-- A redirection is taken out exactly where there is one. -/
theorem splitRedirection_eq_some_iff {words args : List Text} {target : Text} :
    splitRedirection words = .ok (args, some target) ↔ RedirectsTo words args target := by
  constructor
  · intro h
    rcases operator_cases words with
      hno | ⟨pre, op, rfl, hpre, hop⟩ | ⟨pre, op, t, post, rfl, hpre, hop⟩
    · rw [splitRedirection_of_forall_not hno] at h
      exact absurd h (by simp)
    · rw [splitRedirection_append_singleton hpre hop] at h
      exact absurd h (by simp)
    · rw [splitRedirection_append hpre hop] at h
      obtain ⟨rfl, ht⟩ := Prod.mk.inj (Except.ok.inj h)
      obtain rfl := Option.some.inj ht
      exact ⟨pre, op, post, rfl, rfl, hpre, hop⟩
  · rintro ⟨pre, op, post, rfl, rfl, hpre, hop⟩
    exact splitRedirection_append hpre hop

/-- Nothing is taken out exactly if no word but the last is an operator. -/
theorem splitRedirection_eq_none_iff {words args : List Text} :
    splitRedirection words = .ok (args, none) ↔
      args = words ∧ ∀ w ∈ words.dropLast, ¬ IsOperator w := by
  rcases operator_cases words with
    hno | ⟨pre, op, rfl, hpre, hop⟩ | ⟨pre, op, t, post, rfl, hpre, hop⟩
  · rw [splitRedirection_of_forall_not hno]
    have hall : ∀ w ∈ words.dropLast, ¬ IsOperator w :=
      fun w hw ↦ hno w (List.dropLast_subset words hw)
    constructor
    · intro h
      exact ⟨(Prod.mk.inj (Except.ok.inj h)).1.symm, hall⟩
    · rintro ⟨rfl, -⟩
      rfl
  · rw [splitRedirection_append_singleton hpre hop, List.dropLast_concat]
    constructor
    · intro h
      exact ⟨(Prod.mk.inj (Except.ok.inj h)).1.symm, hpre⟩
    · rintro ⟨rfl, -⟩
      rfl
  · rw [splitRedirection_append hpre hop]
    have hmem : op ∈ (pre ++ op :: t :: post).dropLast := by
      rw [List.dropLast_append_of_ne_nil (by simp), List.dropLast_cons_cons]
      exact List.mem_append_right pre List.mem_cons_self
    constructor
    · intro h
      exact absurd h (by simp)
    · rintro ⟨-, h⟩
      exact absurd hop (h op hmem)

/-- Words redirect to a target, or none of them but the last is an operator. -/
theorem redirectsTo_or (words : List Text) :
    (∀ w ∈ words.dropLast, ¬ IsOperator w) ∨ ∃ args target, RedirectsTo words args target := by
  obtain ⟨args, target, hsplit⟩ := exists_splitRedirection_eq words
  rcases target with _ | target
  · exact .inl (splitRedirection_eq_none_iff.1 hsplit).2
  · exact .inr ⟨args, target, splitRedirection_eq_some_iff.1 hsplit⟩

end LineShell
