import LineShell.Proofs.Session.WorkingDir

/-!
# Repeating a line

Running a line once more changes nothing, unless its command is `cd` (`execute_again`). What the
line does to the machine is to open its target and to write to it. Opening the target again undoes
the writing, so the second run starts its command on the files that the first one had started it on:
a target that was created is there now and is emptied instead, and whether it was reached through
links, or is found by a search for commands, or is the very program that is run, has no say in it.

Nothing has to be known of the commands for that, but that they move nowhere and write to no other
place. Whatever they look at is the same both times, and so is what they answer.
-/

namespace LineShell.Shell

open FileSystem (textName textPlace)

variable {m : Machine} {words args : List Text} {target : Option Text} {sink : Sink}
  {files : FileSystem}

theorem location_execute_of_ne_cd (hsplit : splitRedirection words = .ok (args, target))
    (hcd : args.head? ≠ some cdName) : (execute m words).machine.location = m.location := by
  rcases location_execute m words with hstay | ⟨arg, more, target', hsplit', -⟩
  · exact hstay
  · obtain ⟨rfl, -⟩ := Prod.mk.inj (Except.ok.inj (hsplit.symm.trans hsplit'))
    exact absurd rfl hcd

/-- The redirection of a line that has been run is opened as it was for that run. -/
theorem openSink_execute (hsplit : splitRedirection words = .ok (args, target))
    (hcd : args.head? ≠ some cdName) :
    openSink (execute m words).machine.files (execute m words).machine.location target
      = openSink m.files m.location target := by
  rw [location_execute_of_ne_cd hsplit hcd]
  rcases hopen : openSink m.files m.location target with e | ⟨sink, files⟩
  · rw [execute_of_openSink_eq_error hsplit hopen]
    exact hopen
  · exact openSink_again hopen (files_execute_of_openSink hsplit hopen)

/-- The second run of a line is the first one over again. -/
theorem execute_execute (hsplit : splitRedirection words = .ok (args, target))
    (hcd : args.head? ≠ some cdName) :
    execute (execute m words).machine words = execute m words := by
  have hagain := openSink_execute (m := m) hsplit hcd
  rcases hopen : openSink m.files m.location target with e | ⟨sink, files⟩
  · rw [execute_of_openSink_eq_error hsplit hopen, execute_of_openSink_eq_error hsplit hopen]
  · -- Only the files differ from those of the first run, and they are opened to the same.
    have hmachine : { (execute m words).machine with files } = { m with files } := by
      rw [execute_machine_eq, location_execute_of_ne_cd hsplit hcd]
    rw [hopen] at hagain
    rw [execute_of_openSink_ok hsplit hagain, hmachine, ← execute_of_openSink_ok hsplit hopen]

/-- **Repeating a line is harmless,** whatever its command is, unless that is `cd`. The second run
has the same result, lets the same out, and leaves the same files and the shell in the same place.
Its command is run on the files that the first one's was run on, with the redirection opened anew,
so that it writes over what the first run had written, and never behind it. However often the line
is repeated, the machine is as it was after the first time.

The mode of a file that the first run has created is 644, umask 0, and lets the owner write to it
again; and a mode has no set-id bits, which would be gone after the first run. -/
theorem execute_again (m : Machine) {words args : List Text} {target : Option Text}
    (hsplit : splitRedirection words = .ok (args, target))
    (hcd : args.head? ≠ some "cd".toList) :
    let once := execute m words
    let twice := execute once.machine words
    twice.result = once.result ∧ twice.transcript = once.transcript ∧
      twice.machine = once.machine ∧
      openSink once.machine.files once.machine.location target
        = openSink m.files m.location target ∧
      ∀ n, (List.replicate (n + 1) words).foldl (fun m words ↦ (execute m words).machine) m
        = once.machine := by
  intro once twice
  have htwice : twice = once := execute_execute hsplit hcd
  rw [htwice]
  refine ⟨rfl, rfl, rfl, openSink_execute hsplit hcd, ?_⟩
  intro n
  induction n with
  | zero => rfl
  | succ n ih =>
    rw [List.replicate_succ', List.foldl_append, ih]
    exact congrArg Outcome.machine htwice

/-- A machine that looks for commands in `b`, where there are none yet, and on which a link leads to
one. -/
def dangling : Machine where
  files := (FileSystem.empty.insert (textPlace ["b"]) (.directory 0o755)).insert (textPlace ["l"])
    (.link (textName "b/x"))
  location := .root
  searchPath := some (textName "/b")
  home := none
  behaviour _ := ⟨[], [], .exited 0⟩

/-- What `type` says of a name is written, twice, to the file of that name, which the link leads to
and which the first run creates where commands are looked for. -/
theorem execute_again_dangling :
    let words := ["type".toList, "x".toList, ">".toList, "l".toList]
    splitRedirection words = .ok (["type".toList, "x".toList], some "l".toList) ∧
      (execute (execute dangling words).machine words).machine.files.node? (textPlace ["b", "x"])
        = some (.file .fresh (.data (textName "x: not found\n"))) := by
  have hsplit : splitRedirection ["type".toList, "x".toList, ">".toList, "l".toList]
      = .ok (["type".toList, "x".toList], some "l".toList) := rfl
  obtain ⟨-, -, hmachine, -⟩ := execute_again dangling hsplit (by decide)
  refine ⟨hsplit, ?_⟩
  rw [hmachine]
  decide

end LineShell.Shell
