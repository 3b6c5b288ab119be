import LineShell.Proofs.LineSource.Interruption
import LineShell.Proofs.Session.WholeRun

/-!
# Sessions that are interrupted

A session can be cut short from outside: its input fails in the middle of a line, or nobody takes
its prompts any more. What has been read by then has been run, and nothing else is; the error behind
the last line ends the session (`run_interrupted`).

What decides is where the source stops, and the source does not know what its lines do. So a line
that ends the session by itself does so just as it would with all the room there is, if it is
returned at all.
-/

namespace LineShell.Session

/-- **Prompts that fail and inputs that fail end a session where they are met.** A stream that ends
gives all of its lines, and one that fails those that end in a newline. A reader returns as many of
them as whole prompts fit into the room of the writer, or all if there are fewer; if there are not,
the writer's error is what it stops with, and the end or the error of the stream otherwise. A
prompt without bytes always fits. What is written are prompts, one behind the other, cut off where
the room ends. A prompt that does not fit takes nothing from the input. The session runs the lines
that are returned and nothing else, and ends with that error, which is fatal, unless one of these
lines ends it before. -/
theorem run_interrupted (prompt : Text) (pieces : List Bytes) (ending : StreamEnd) (room : Nat)
    (fault : Fault) :
    let s : PlainLines := ⟨pieces, ending, ⟨some room, fault⟩⟩
    let input := pieces.flatten
    let p := Utf8.encode prompt
    let available := ending.lines input
    let count := if p = [] then available.length else min available.length (room / p.length)
    let returned := available.take count
    let r := LineSource.readAll prompt s
    available.length = input.count newline +
        (if ending = .ended ∧ ¬ (input = [] ∨ input.getLast? = some newline) then 1 else 0) ∧
      r.1 = returned.map Utf8.decodeLossy ∧ r.1.length = count ∧
      r.2.1 = (if p ≠ [] ∧ room / p.length ≤ available.length then .readInput fault
        else ending.error) ∧
      r.2.1.IsFatal ∧ r.2.2 = (List.replicate (count + 1) p).flatten.take room ∧
      (∀ s : PlainLines, ¬ s.prompter.Fits p →
        LineSource.readLine prompt s
          = ⟨s.prompter.taken p, .error (.readInput s.prompter.fault),
              { s with prompter := s.prompter.after p }⟩) ∧
      ∀ m,
        let e := run prompt s m
        (NoneExits m returned →
            e.result = .error (.error r.2.1) ∧ e.machine = machineAfter m returned ∧
              (∃ last, e.transcript = transcriptOf prompt m returned ++ [.prompt last]) ∧
              e.transcript.prompts = r.2.2 ∧
              (p ≠ [] ∧ room / p.length ≤ available.length →
                returned.flatten ++ e.source.unread = input)) ∧
          ∀ pre line post code, returned = pre ++ line :: post → NoneExits m pre →
            ExitsWith (machineAfter m pre) line code →
              e.result = .ok code ∧ e.machine = machineAfter m (pre ++ [line]) ∧
                e.transcript = transcriptOf prompt m (pre ++ [line]) := by
  intro s input p available count returned r
  obtain ⟨last, s', hstops, hwritten, hunread⟩ := PlainLines.exists_stops prompt pieces ending room fault
  have hstops : LineSource.Stops prompt s returned last
      (if p ≠ [] ∧ room / p.length ≤ available.length then .readInput fault else ending.error) s' :=
    hstops
  have hle : count ≤ available.length := by
    by_cases hp : p = []
    · exact Nat.le_of_eq (if_pos hp)
    · exact Nat.le_trans (Nat.le_of_eq (if_neg hp)) (Nat.min_le_left _ _)
  have hlength : returned.length = count := List.length_take_of_le hle
  have hr : r = _ := LineSource.readAll_of_stops hstops
  rw [hlength] at hr
  have hfatal : r.2.1.IsFatal := by
    rw [hr]
    dsimp only
    split
    · exact trivial
    · exact ending.isFatal_error
  refine ⟨ending.length_lines input, ?_, ?_, ?_, hfatal, ?_,
    fun s ↦ PlainLines.readLine_of_not_fits, fun m ↦ ⟨?_, ?_⟩⟩
  · rw [hr]
  · rw [hr, List.length_map, hlength]
  · rw [hr]
  · rw [hr]
    exact hwritten
  · intro hnone
    rw [run_of_stops hstops hnone]
    refine ⟨?_, rfl, ⟨last, rfl⟩, ?_, hunread⟩
    · rw [hr]
    · rw [Transcript.prompts_append, prompts_transcriptOf, hlength, hr]
      exact congrArg _ (List.append_nil last)
  · intro pre line post code hreturned hpre hexit
    obtain ⟨behind, hreturns, -⟩ := hstops
    rw [hreturned, List.append_cons] at hreturns
    obtain ⟨t, hreturns, -⟩ := hreturns.of_append
    rw [run_of_exits hreturns hpre hexit]
    exact ⟨rfl, rfl, rfl⟩

end LineShell.Session
