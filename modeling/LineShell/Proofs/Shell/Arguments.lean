import LineShell.Proofs.Machine.Launch
import LineShell.Proofs.Shell.Results
import LineShell.Proofs.Token.WrittenLine

/-!
# What reaches a command

Words without an operator are the arguments of a command as they stand (`execute_of_forall_not`),
and nothing between the line and the command changes them. So a line that is written for some words
hands these words over: `echo` writes them, and a process is created with all of them for a program
that is found, the first being the name that it was called by and not the path at which it was found
(`runLine_writtenLine`).

What a process makes of its arguments is not the shell's affair any more. A program gets them as they
are. A script is read by its interpreter, which is called with its own name and the path of the script
in front of all arguments but the first.
-/

namespace LineShell.Shell

open Token (Written writtenLine)

theorem execute_of_forall_not {m : Machine} {words : List Text} (hne : words ≠ [])
    (h : ∀ w ∈ words, ¬ IsOperator w) : execute m words = dispatch m .stdout words :=
  execute_of_forall_dropLast_not hne fun w hw ↦ h w (List.dropLast_subset words hw)

theorem dispatch_echo (m : Machine) (args : List Text) :
    dispatch m .stdout ("echo".toList :: args)
      = ⟨.ok .proceed, m, [.event (.dispatching "echo".toList (.builtin .echo)),
          .out (Utf8.encode (unwords args ++ ['\n']))]⟩ := by
  have hecho : Command.ofName m.surroundings "echo".toList = ⟨.builtin .echo, []⟩ :=
    Command.ofName_of_builtin m.surroundings .echo
  rw [dispatch_cons, hecho]
  rfl

/-- **A run of a program that was found is the launch of its explicit path.** If the launch fails, only
an event tells of it. If there is a report, what the program wrote to standard output goes where the
output goes, and what it wrote to standard error follows. -/
theorem runProgram_of_launch {m : Machine} {sink : Sink} {path : Path} {args : List Text}
    {r : Report} (h : m.launch sink.place? path.explicit args = .ok r) :
    runProgram m sink path args
      = ⟨.ok .proceed, (pour m sink r.out).1, (pour m sink r.out).2
          ++ [.err r.err, .event (.finished path.explicit r.status)]⟩ := by
  rw [runProgram, h]

theorem runProgram_of_launch_error {m : Machine} {sink : Sink} {path : Path} {args : List Text}
    {cause : Fault} (h : m.launch sink.place? path.explicit args = .error cause) :
    runProgram m sink path args = ⟨.ok .proceed, m, [.event (.failedToRun path cause)]⟩ := by
  rw [runProgram, h]

theorem runProgram_stdout_of_launch {m : Machine} {path : Path} {args : List Text} {r : Report}
    (h : m.launch none path.explicit args = .ok r) :
    runProgram m .stdout path args
      = ⟨.ok .proceed, m, [.out r.out, .err r.err, .event (.finished path.explicit r.status)]⟩ :=
  runProgram_of_launch h

/-- **Words that are written in a line reach the command as they are.** However they are spelled,
they are read as those words. If none of them is an operator, `echo` writes those behind its name
with one space between neighbours. For a name that stands for a program a process is created with all
of them, of which the name itself is the first, and the line does what becomes of that: what is
written is what the program writes, or nothing if it cannot be launched. The file that is opened for
the process is the one that was found. A program that is started from it has exactly these arguments;
if it is a script, an interpreter has them behind the path of the script, but for the name. -/
theorem runLine_writtenLine (lead : Nat) (ws : List Written) (trail : Nat) (ended : Bool) :
    let words := ws.map Written.word
    let argv := words.map Utf8.encode
    let line := writtenLine lead ws trail ended
    tokenize line = words ∧
      ((∀ w ∈ words, ¬ IsOperator w) → ∀ m : Machine,
        (∀ args, words = "echo".toList :: args →
          runLine m line
            = ⟨.ok .proceed, m, [.event (.dispatching "echo".toList (.builtin .echo)),
                .out (Utf8.encode (unwords args ++ ['\n']))]⟩) ∧
        ∀ name args path, words = name :: args →
          (Command.ofName m.surroundings name).value = .external path →
          (∀ w ∈ words, Char.ofNat 0 ∉ w) →
          (∀ r, m.launch none path.explicit words = .ok r → runLine m line
            = ⟨.ok .proceed, m, [.event (.dispatching name (.external path)), .out r.out,
                .err r.err, .event (.finished path.explicit r.status)]⟩) ∧
          (∀ cause, m.launch none path.explicit words = .error cause → runLine m line
            = ⟨.ok .proceed, m, [.event (.dispatching name (.external path)),
                .event (.failedToRun path cause)]⟩) ∧
          ∃ place mode content, m.files.locate m.location path = .ok (.ofPlace place) ∧
            m.files.node? place = some (.file mode content) ∧ mode.IsExecutable ∧
            (mode.AllowsRunning → m.CanHandOver argv →
              m.start none path.explicit words
                = m.load none Machine.scriptLimit ⟨path.explicit, place, content, argv, []⟩) ∧
            (mode.AllowsRunning → m.CanHandOver argv → content = .program →
              m.launch none path.explicit words
                = .ok (m.behaviour ⟨place, [], argv, m.location.path?⟩)) ∧
            ∀ i, m.start none path.explicit words = .ok i →
              m.launch none path.explicit words = .ok (m.behaviour i) ∧
              i.files.getLast? = some place ∧
              ((i.program = place ∧ i.scripts = [] ∧ i.arguments = argv) ∨
                ∃ front, front ≠ [] ∧ i.arguments = front ++ path.explicit :: argv.tail)) := by
  intro words argv line
  have hwords : tokenize line = words := Token.tokenize_writtenLine lead ws trail ended
  refine ⟨hwords, fun hop m ↦ ⟨fun args hargs ↦ ?_, fun name args path hargs hname hnul ↦ ?_⟩⟩
  · rw [runLine, hwords, execute_of_forall_not (by simp [hargs]) hop, hargs, dispatch_echo]
  have hrun : runLine m line
      = (runProgram m .stdout path words).after
          [.event (.dispatching name (.external path))] := by
    rw [runLine, hwords, execute_of_forall_not (by simp [hargs]) hop, hargs, dispatch_cons, hname]
    rfl
  obtain ⟨place, mode, content, hlocate, hfile, hmode⟩ :=
    FileSystem.isExecutable_iff_exists_place.1 (Command.isExecutable_of_external hname)
  have hstart (hallows : mode.AllowsRunning) (hover : m.CanHandOver argv) :
      m.start none path.explicit words
        = m.load none Machine.scriptLimit ⟨path.explicit, place, content, argv, []⟩ := by
    have hopened : m.openToRun none (.ofPlace place) = .ok (place, content) :=
      Machine.openToRun_eq_ok_iff.2 ⟨mode, rfl, hfile, hallows, by simp⟩
    rw [Machine.start_explicit none hnul hlocate, hopened]
    exact if_neg (not_not_intro hover)
  refine ⟨fun r h ↦ ?_, fun cause h ↦ ?_, place, mode, content, hlocate, hfile, hmode, hstart,
    fun hallows hover hprogram ↦ ?_, fun i h ↦ ?_⟩
  · rw [hrun, runProgram_stdout_of_launch h]
    rfl
  · rw [hrun, runProgram_of_launch_error h]
    rfl
  · rw [Machine.launch, hstart hallows hover, Machine.load_of_program none _ hprogram]
    rfl
  · refine ⟨by rw [Machine.launch, h]; rfl, Machine.getLast?_files_start hlocate h,
      Machine.arguments_start hlocate h⟩

end LineShell.Shell
