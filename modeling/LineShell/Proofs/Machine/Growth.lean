import LineShell.Machine
import LineShell.Proofs.FileSystem.Growth

/-!
# Machines whose files grow

A command cannot tell by its surroundings that files have been created or written to
(`surroundings_of_grows`), so what names stand for and where one can go is as before. Calls are
carried out alike, and lead to the same directory (`performAll_of_grows`).
-/

namespace LineShell.Machine

variable {m : Machine} {files : FileSystem}

theorem surroundings_of_grows (h : m.files.Grows files) :
    ({ m with files } : Machine).surroundings = m.surroundings := by
  have henter : ∀ p, (files.enter m.location p).toBool = (m.files.enter m.location p).toBool := by
    intro p
    rcases h.enter_cases m.location p with ⟨target, hold, hnew⟩ | ⟨e, e', hold, hnew⟩
    all_goals
      simp only [hold, hnew, Except.toBool]
  have hexec : ({ m with files } : Machine).isExecutable = m.isExecutable :=
    funext (h.isExecutable_eq m.location)
  simp only [surroundings, hexec, henter]

theorem perform_of_grows (h : m.files.Grows files) (c : Call) :
    ({ m with files } : Machine).perform c = { m.perform c with files } := by
  rcases c with _ | _ | _ | ⟨target⟩
  · rfl
  · rfl
  · rfl
  · simp only [perform]
    rcases h.enter_cases m.location target with ⟨l, hold, hnew⟩ | ⟨e, e', hold, hnew⟩
    all_goals
      rw [hold, hnew]

theorem performAll_of_grows (h : m.files.Grows files) (calls : List Call) :
    ({ m with files } : Machine).performAll calls = { m.performAll calls with files } := by
  induction calls generalizing m with
  | nil => rfl
  | cons c calls ih =>
    have hc : (m.perform c).files.Grows files := by rwa [files_perform]
    calc ({ m with files } : Machine).performAll (c :: calls)
        = (({ m with files } : Machine).perform c).performAll calls := rfl
      _ = ({ m.perform c with files } : Machine).performAll calls := by rw [perform_of_grows h]
      _ = { (m.perform c).performAll calls with files } := ih hc

end LineShell.Machine
