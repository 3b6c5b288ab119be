import LineShell.Machine

/-!
# Calls that are carried out

Carrying out calls changes nothing of a machine but where the shell stands (`performAll_eq`), and of
all calls only a move does that. A command is told beforehand how its move will end: if it can
enter, the move leads to the directory that is entered (`perform_move_of_canEnter`), and if it
cannot, nothing happens at all (`perform_move_of_not_canEnter`).
-/

namespace LineShell.Machine

variable {m : Machine} {p : Path}

theorem canEnter_surroundings_iff :
    m.surroundings.canEnter p = true ↔ ∃ l, m.files.enter m.location p = .ok l := by
  have hcan : m.surroundings.canEnter p = (m.files.enter m.location p).toBool := rfl
  rw [hcan]
  rcases m.files.enter m.location p with e | l <;> simp [Except.toBool]

/-- A move to where one can go leads there. -/
theorem perform_move_of_canEnter (h : m.surroundings.canEnter p = true) :
    ∃ l, m.files.enter m.location p = .ok l ∧ m.perform (.move p) = { m with location := l } := by
  obtain ⟨l, hl⟩ := canEnter_surroundings_iff.1 h
  refine ⟨l, hl, ?_⟩
  rw [perform, hl]

theorem perform_move_of_not_canEnter (h : m.surroundings.canEnter p = false) :
    m.perform (.move p) = m := by
  have hno : ¬ ∃ l, m.files.enter m.location p = .ok l := by
    rw [← canEnter_surroundings_iff, h]
    exact Bool.false_ne_true
  rw [perform]
  split
  · next l hl => exact absurd ⟨l, hl⟩ hno
  · rfl

theorem perform_eq (m : Machine) (c : Call) :
    m.perform c = { m with location := (m.perform c).location } := by
  rcases c with _ | _ | _ | ⟨target⟩
  · rfl
  · rfl
  · rfl
  · rw [perform]
    split <;> rfl

/-- Calls change nothing but where the shell stands. -/
theorem performAll_eq (m : Machine) (calls : List Call) :
    m.performAll calls = { m with location := (m.performAll calls).location } := by
  induction calls generalizing m with
  | nil => rfl
  | cons c calls ih =>
    have hcons : m.performAll (c :: calls) = (m.perform c).performAll calls := rfl
    rw [hcons, ih, perform_eq m c]

theorem performAll_append_singleton (m : Machine) (calls : List Call) (c : Call) :
    m.performAll (calls ++ [c]) = (m.performAll calls).perform c := by
  rw [performAll, List.foldl_append, ← performAll]
  rfl

end LineShell.Machine
