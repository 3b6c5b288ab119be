import LineShell.Proofs.Completion.Boundaries
import LineShell.Proofs.Session.WholeRun
import LineShell.Proofs.Shell.Failures
import LineShell.Proofs.Token.Positions

/-!
# Nothing is asked for that is not there

A list that is asked for a member it does not have ends whatever runs, with `Halt.outOfRange`. This
can happen in few places. A scanner reads characters by position, a redirection takes two words out
of a line, a command needs a name, and so does `echo`; and a completion cuts a line at positions
that count bytes. Each of these places would notice (`result_dispatch_eq_outOfRange_iff` and its
likes), so that to say that no session ends in this way is to say that none of them is reached with
too short a list (`Session.never_outOfRange`).

What saves a command from having no name is not that a line has words. A redirection can take all of
them away, and what is left is looked at again before it is run.
-/

namespace LineShell

/-! ## Where it would be noticed -/

theorem takeOut?_eq_none_iff {α : Type} {l : List α} {i : Nat} :
    takeOut? l i = none ↔ l.length ≤ i := by
  rw [takeOut?, Option.map_eq_none_iff, List.getElem?_eq_none_iff]

theorem Builtin.runEcho?_eq_none_iff {args : List Text} : runEcho? args = none ↔ args = [] := by
  cases args with
  | nil => exact iff_of_true rfl rfl
  | cons name rest => exact iff_of_false (by simp [runEcho?]) (List.cons_ne_nil name rest)

namespace Token

theorem charAt_eq_outOfRange_iff {text : Text} {i : Nat} :
    charAt text i = .error .outOfRange ↔ text.length ≤ i := by
  rw [charAt, ← List.getElem?_eq_none_iff]
  rcases text[i]? with _ | c <;> simp

end Token

namespace Shell

variable {m : Machine} {sink : Sink}

theorem result_dispatch_eq_outOfRange_iff {args : List Text} :
    (dispatch m sink args).result = .error .outOfRange ↔ args = [] := by
  cases args with
  | nil => exact iff_of_true rfl rfl
  | cons name rest =>
    refine iff_of_false ?_ (List.cons_ne_nil name rest)
    intro h
    obtain ⟨-, cause, -, hcause⟩ := result_dispatch_eq_error_iff.1 h
    exact absurd hcause (by simp)

/-! ## Lines and sessions -/

theorem result_execute_ne_outOfRange (m : Machine) (words : List Text) :
    (execute m words).result ≠ .error .outOfRange := by
  intro h
  obtain ⟨e, he, -⟩ := not_isFatal_of_result_execute h
  exact absurd he (by simp)

end Shell

namespace Session

theorem result_eq_outOfRange_of_verdict {result : Except Halt Flow}
    (h : verdict result = .error (.error .outOfRange)) : result = .error .outOfRange := by
  rcases result with (e | _) | (_ | code)
  · rw [verdict] at h
    split at h
    · exact absurd h (by simp)
    · exact absurd h (by simp)
  · rfl
  · exact absurd h (by simp [verdict])
  · exact absurd h (by simp [verdict])

/-- What a line leaves of a session asks for nothing that is not there, if neither the line nor the
lines behind it do. -/
theorem result_runBehind_ne_outOfRange {σ : Type} [LineSource σ] {prompt : Text} {source : σ}
    {o : Outcome Flow} (ho : o.result ≠ .error .outOfRange)
    (hrest : (run prompt source o.machine).result ≠ .error .outOfRange) :
    (runBehind prompt source o).result ≠ .error .outOfRange := by
  rw [runBehind]
  rcases hverdict : verdict o.result with result | complaint
  · intro hresult
    have hresult : result = .error .outOfRange := hresult
    rw [hresult] at hverdict
    exact ho (result_eq_outOfRange_of_verdict hverdict)
  · exact hrest

/-- No session ends for want of a member of a list, wherever its lines come from. -/
theorem result_run_ne_outOfRange {σ : Type} [LineSource σ] (prompt : Text) (source : σ)
    (m : Machine) : (run prompt source m).result ≠ .error .outOfRange := by
  induction source using source_induction (σ := σ) prompt generalizing m with
  | stops source prompted e rest hread =>
    rw [run_of_error hread]
    exact fun h ↦ absurd h (by simp)
  | reads source prompted line rest hread ih =>
    rw [run_of_line hread]
    exact result_runBehind_ne_outOfRange (Shell.result_execute_ne_outOfRange m _) (ih _)

/-- **Nothing is asked for that is not there.** A session on plain lines never ends in that way,
whatever the bytes, and no list of words does when it is run. A scanner reads a line by positions to
its end, with the words of the line, and a redirection finds the words that it takes out. Each place
would notice: a scanner a position behind the line, a redirection a word that is missing, and a
command and `echo` that they have no name; so none of them is reached like that. A completion at a
boundary cuts the line at boundaries alone, for a word that begins no later than there, whoever
completes the names of files. -/
theorem never_outOfRange (m : Machine) :
    (∀ prompt (source : PlainLines), (run prompt source m).result ≠ .error .outOfRange) ∧
      (∀ words, (Shell.execute m words).result ≠ .error .outOfRange) ∧
      (∀ line, Token.scan line = .ok (tokenize line)) ∧
      (∀ words, ∃ args target, splitRedirection words = .ok (args, target)) ∧
      (∀ line i, Token.charAt line i = .error .outOfRange ↔ line.length ≤ i) ∧
      (∀ (words : List Text) i, takeOut? words i = none ↔ words.length ≤ i) ∧
      (∀ sink args, (Shell.dispatch m sink args).result = .error .outOfRange ↔ args = []) ∧
      (∀ args, Builtin.runEcho? args = none ↔ args = []) ∧
      ∀ files line pos, Utf8.IsBoundary line pos →
        ∃ start blank word, start ≤ pos ∧ Utf8.IsBoundary line start ∧
          Utf8.slice? line 0 pos = some (blank ++ word) ∧
          Utf8.slice? line start pos = some word ∧
          Utf8.slice? line 0 start = some blank ∧
          ' ' ∉ word ∧ (blank = [] ∨ ∃ rest, blank = rest ++ [' ']) ∧
          m.complete? files line pos = some (if isBlank blank then
            .ok ⟨start, (m.commandNames word m.searchPath).map Candidate.ofCommand⟩
            else files line pos) := by
  refine ⟨?_, Shell.result_execute_ne_outOfRange m, Token.scan_eq, exists_splitRedirection_eq,
    fun line i ↦ Token.charAt_eq_outOfRange_iff, fun words i ↦ takeOut?_eq_none_iff,
    fun sink args ↦ Shell.result_dispatch_eq_outOfRange_iff,
    fun args ↦ Builtin.runEcho?_eq_none_iff, ?_⟩
  · intro prompt source
    exact result_run_ne_outOfRange prompt source m
  · intro files line pos hpos
    exact Machine.slices_of_complete? hpos

end Session

end LineShell
