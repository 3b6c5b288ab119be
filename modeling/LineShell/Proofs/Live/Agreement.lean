import LineShell.Program
import LineShell.Proofs.Live.Acts
import LineShell.Proofs.Session.WholeRun

/-!
# The live shell and its outcomes

Whatever the live shell does on a machine comes to the outcome that `Shell` and `Session` give it
there: it ends in the same way, leaves the same machine, and has written the transcript. So the
order in which things are done, errors and events included, is the order of the transcript, and a
filter has no part in anything but the lines of the log.

There is one lemma for each function of the shell, from the lemmas for what it calls, up to a line. A
session is then an induction along its source (`comesTo_session`), and a whole run is a session with
a report before it and perhaps an error behind it (`Program.runOn_eq`).
-/

namespace LineShell

variable {σ : Type} [LineSource σ]

namespace Live

/-! ## Output -/

theorem comesTo_deliver (sink : Sink) (output : Text) (m : Machine) :
    (deliver sink output).ComesTo m (Shell.deliver m sink output) := by
  refine (Act.comesTo_machine m).bind_nil ?_
  rw [Shell.deliver]
  rcases sink.write m.files (Utf8.encode output) with cause | ⟨files, shown⟩
  · exact Act.comesTo_throw _ m
  · refine (Act.comesTo_setMachine m _).bind_nil ?_
    exact (Act.comesTo_print shown _).bind (Act.comesTo_pure Flow.proceed _)

theorem comesTo_answer (sink : Sink) (reply : Surroundings → Reply Text) (m : Machine) :
    (answer sink reply).ComesTo m (Shell.answer m sink (reply m.surroundings)) := by
  refine (Act.comesTo_machine m).bind_nil ?_
  exact (Act.comesTo_setMachine m _).bind_nil (comesTo_deliver sink _ _)

theorem comesTo_pour (sink : Sink) (bytes : Bytes) (m : Machine) :
    (pour sink bytes).ComesTo m
      ⟨.ok (), (Shell.pour m sink bytes).1, (Shell.pour m sink bytes).2⟩ := by
  refine (Act.comesTo_machine m).bind_nil ?_
  rw [Shell.pour]
  rcases sink.write m.files bytes with cause | ⟨files, shown⟩
  · exact Act.comesTo_pure () m
  · exact (Act.comesTo_setMachine m _).bind_nil (Act.comesTo_print shown _)

/-! ## Commands -/

/-- A program is reported on behind everything that it has written, and one that does not start at
the point at which it would have written. -/
theorem comesTo_runProgram (sink : Sink) (path : Path) (args : List Text) (m : Machine) :
    (runProgram sink path args).ComesTo m (Shell.runProgram m sink path args) := by
  refine (Act.comesTo_machine m).bind_nil ?_
  rw [Shell.runProgram]
  rcases m.launch sink.place? path.explicit args with cause | report
  · exact (Act.comesTo_report _ m).bind (Act.comesTo_pure Flow.proceed m)
  · refine (comesTo_pour sink report.out m).bind ?_
    refine (Act.comesTo_complain report.err _).bind ?_
    exact (Act.comesTo_report _ _).bind (Act.comesTo_pure Flow.proceed _)

theorem comesTo_runBuiltin (sink : Sink) (args : List Text) (b : Builtin) (m : Machine) :
    (runBuiltin sink args b).ComesTo m (Shell.runBuiltin m sink args b) := by
  cases b with
  | exit => exact Act.comesTo_pure _ m
  | echo =>
    rw [runBuiltin, Shell.runBuiltin]
    rcases Builtin.runEcho? args with _ | output
    · exact Act.comesTo_throw _ m
    · exact comesTo_deliver sink output m
  | type =>
    rw [runBuiltin, Shell.runBuiltin]
    exact comesTo_answer sink (Builtin.runType · args) m
  | pwd =>
    rw [runBuiltin, Shell.runBuiltin]
    exact comesTo_answer sink Builtin.runPwd m
  | cd =>
    rw [runBuiltin, Shell.runBuiltin]
    exact comesTo_answer sink (Builtin.runCd · args) m

theorem comesTo_dispatch (sink : Sink) (args : List Text) (m : Machine) :
    (dispatch sink args).ComesTo m (Shell.dispatch m sink args) := by
  rw [dispatch, Shell.dispatch]
  rcases args[0]? with _ | name
  · exact Act.comesTo_throw _ m
  · refine (Act.comesTo_machine m).bind_nil ((Act.comesTo_report _ m).bind ?_)
    rcases (Command.ofName m.surroundings name).value with b | path | _
    · exact comesTo_runBuiltin sink args b m
    · exact comesTo_runProgram sink path args m
    · exact comesTo_deliver sink _ m

/-! ## Lines -/

theorem comesTo_execute (words : List Text) (m : Machine) :
    (execute words).ComesTo m (Shell.execute m words) := by
  rw [execute, Shell.execute]
  split
  · exact Act.comesTo_pure _ m
  · rcases splitRedirection words with halt | ⟨args, target⟩
    · exact Act.comesTo_throw halt m
    · have htarget : (target.forM fun t ↦ Act.report (.redirecting t)).ComesTo m
          ⟨.ok (), m, target.toList.map fun t ↦ .event (.redirecting t)⟩ := by
        rcases target with _ | t
        · exact Act.comesTo_pure () m
        · exact Act.comesTo_report _ m
      refine htarget.bind ((Act.comesTo_machine m).bind_nil ?_)
      rcases openSink m.files m.location target with e | ⟨sink, files⟩
      · exact Act.comesTo_throw _ m
      · refine (Act.comesTo_setMachine m _).bind_nil ?_
        dsimp only
        split
        · exact Act.comesTo_pure _ _
        · exact comesTo_dispatch sink args _

theorem comesTo_runLine (line : Text) (m : Machine) :
    (runLine line).ComesTo m (Shell.runLine m line) :=
  comesTo_execute (tokenize line) m

/-! ## Sessions -/

/-- **A live session comes to what its transcript says.** -/
theorem comesTo_session (prompt : Text) (source : σ) (m : Machine) :
    (session prompt source).ComesTo m (Session.run prompt source m).toOutcome := by
  induction source using Session.source_induction (σ := σ) prompt generalizing m with
  | stops s p e s' hread =>
    rw [Session.run_of_error hread, session, hread]
    refine (Act.comesTo_print_prompt p m).bind ?_
    split
    · next e' he =>
      obtain rfl : e = e' := Except.error.inj he
      exact Act.comesTo_throw _ m
    · next line hl => exact absurd hl (by simp)
  | reads s p line s' hread ih =>
    rw [Session.run_of_line hread, session, hread]
    refine (Act.comesTo_print_prompt p m).bind ?_
    split
    · next e he => exact absurd he (by simp)
    · next line' hl =>
      obtain rfl : line = line' := Except.ok.inj hl
      -- Both sides go on from how the line ended, and the machine that it has left.
      refine (comesTo_runLine line m).attempt.bind ?_
      rw [Session.runBehind]
      rcases (Shell.runLine m line).result with (e | _) | (_ | code)
      · rw [Session.verdict]
        dsimp only
        split
        · exact Act.comesTo_throw _ _
        · exact (Act.comesTo_complain _ _).bind (ih _)
      · exact Act.comesTo_throw _ _
      · exact ih _
      · exact Act.comesTo_pure _ _

theorem comesTo_start (s : Startup) (source : σ) (m : Machine) :
    (start s source).ComesTo m
      (Outcome.after [.event (.starting s.interactive)]
        (Session.run s.prompt source m).toOutcome) :=
  (Act.comesTo_report _ m).bind (comesTo_session s.prompt source m)

end Live

/-! ## Whole runs -/

namespace Program

/-- What comes out at the end of a session: the error that has ended it, if one has. -/
def farewell : Except Halt Int → Transcript
  | .error (.error e) => Session.complaint e
  | _ => []

/-- All that comes out of a run, whoever gets to see it: the event of its start, what comes out of
the session, and the error that has ended it. -/
def transcriptOn (m : Machine) (interactive : Bool) (source : σ) : Transcript :=
  let e := Session.run Startup.defaultPrompt source m
  [.event (.starting interactive)] ++ e.transcript ++ farewell e.result

theorem comesTo_bidFarewell (result : Except Halt Int) (m : Machine) :
    (bidFarewell result).ComesTo m ⟨.ok (), m, farewell result⟩ := by
  rcases result with (e | _) | code
  · exact Act.comesTo_complain _ m
  · exact Act.comesTo_pure () m
  · exact Act.comesTo_pure () m

/-- **A run does what its session does, and shows its transcript as far as the filter goes.** -/
theorem runOn_eq (filters : FilterReader) (m : Machine) (log : Option Bytes) (interactive : Bool)
    (source : σ) :
    runOn filters m log interactive source
      = ⟨exitStatus (Session.run Startup.defaultPrompt source m).result,
          (Session.run Startup.defaultPrompt source m).machine,
          (transcriptOn m interactive source).stdout,
          (transcriptOn m interactive source).errorPieces
            ((startup log interactive).filter filters)⟩ := by
  have hstart := Live.comesTo_start (startup log interactive) source m
    ((startup log interactive).filter filters) ⟨m, [], []⟩ rfl
  rw [runOn, hstart, comesTo_bidFarewell _ _ _ _ rfl, World.after_after]
  rfl

end Program

end LineShell
