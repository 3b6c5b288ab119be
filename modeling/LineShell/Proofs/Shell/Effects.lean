import LineShell.Proofs.FileSystem.Reopening
import LineShell.Proofs.Shell.Failures

/-!
# What lines do to the machine

A command does little to the machine that it runs on: the shell may stand elsewhere afterwards, and
the files are what writing to its output has made of them (`ActsWithin`). Every way to run a command
is of this kind (`actsWithin_dispatch`), whatever its output is.

A line adds to that the opening of its target. So what becomes of the files is settled by the
redirection: without one they stay, and with one they stay or have changed at the place to which the
target now leads (`files_execute`).
-/

namespace LineShell.Shell

variable {m m' : Machine} {sink : Sink}

/-! ## Commands -/

/-- Whether a machine has become another by at most a move and a write to a sink. -/
structure ActsWithin (m : Machine) (sink : Sink) (m' : Machine) : Prop where
  /-- Nothing is different but the files and where the shell stands. -/
  eq : m' = { m with files := m'.files, location := m'.location }
  /-- The files are as before, or have been written to. -/
  files : m'.files = m.files ∨ ∃ bytes shown, sink.write m.files bytes = .ok (m'.files, shown)

theorem actsWithin_performAll (m : Machine) (sink : Sink) (calls : List Call) :
    ActsWithin m sink (m.performAll calls) := by
  refine ⟨?_, .inl (m.files_performAll calls)⟩
  rw [Machine.files_performAll]
  exact m.performAll_eq calls

theorem actsWithin_of_write {bytes shown : Bytes} {files : FileSystem} (calls : List Call)
    (h : sink.write m.files bytes = .ok (files, shown)) :
    ActsWithin m sink { m.performAll calls with files } := by
  refine ⟨?_, .inr ⟨bytes, shown, h⟩⟩
  rw [m.performAll_eq calls]

theorem actsWithin_answer (m : Machine) (sink : Sink) (reply : Reply Text) :
    ActsWithin m sink (answer m sink reply).machine := by
  rcases h : sink.write m.files (Utf8.encode reply.value) with cause | ⟨files, shown⟩
  · rw [answer_of_write_error h]
    exact actsWithin_performAll m sink reply.calls
  · rw [answer_of_write_ok h]
    exact actsWithin_of_write reply.calls h

theorem actsWithin_runProgram (m : Machine) (sink : Sink) (path : Path) (args : List Text) :
    ActsWithin m sink (runProgram m sink path args).machine := by
  rw [runProgram]
  split
  · exact actsWithin_performAll m sink []
  · next report _ =>
    dsimp only
    rw [pour]
    split
    · next files shown h => exact actsWithin_of_write [] h
    · exact actsWithin_performAll m sink []

/-- A command moves and writes to its output, at most. -/
theorem actsWithin_dispatch (m : Machine) (sink : Sink) (name : Text) (rest : List Text) :
    ActsWithin m sink (dispatch m sink (name :: rest)).machine := by
  rw [dispatch_cons, Outcome.machine_after]
  rcases command_cases (Command.ofName m.surroundings name).value with h | ⟨path, h⟩ | h
  · rw [h, runCommand_exit]
    exact actsWithin_performAll m sink []
  · rw [h]
    exact actsWithin_runProgram m sink path _
  · rw [runCommand_eq_answer h]
    exact actsWithin_answer m sink _

theorem ActsWithin.files_stdout (h : ActsWithin m .stdout m') : m'.files = m.files := by
  rcases h.files with h | ⟨bytes, shown, h⟩
  · exact h
  · exact (congrArg Prod.fst (Except.ok.inj h)).symm

/-- A command whose output goes to standard output leaves the files as they are. -/
theorem files_dispatch_stdout (m : Machine) (name : Text) (rest : List Text) :
    (dispatch m .stdout (name :: rest)).machine.files = m.files :=
  (actsWithin_dispatch m .stdout name rest).files_stdout

theorem ActsWithin.files_device {kind : Device} (h : ActsWithin m (.opened (.device kind)) m') :
    m'.files = m.files := by
  rcases h.files with h | ⟨bytes, shown, h⟩
  · exact h
  · exact FileSystem.eq_of_write_device (Sink.write_opened_eq_ok h)

theorem ActsWithin.files_file {place : Place} (h : ActsWithin m (.opened (.file place)) m') :
    m'.files = m.files ∨ ∃ bytes, m'.files = m.files.append place bytes := by
  rcases h.files with h | ⟨bytes, shown, h⟩
  · exact .inl h
  · exact .inr ⟨bytes, (congrArg Prod.fst (Except.ok.inj h)).symm⟩

/-! ## Lines -/

/-- A sink that has been opened is standard output, and the files are as they were, or it is what a
target was opened to. -/
theorem openSink_cases {target : Option Text} {files : FileSystem}
    (h : openSink m.files m.location target = .ok (sink, files)) :
    (target = none ∧ sink = .stdout ∧ files = m.files) ∨
      ∃ t handle, target = some t ∧ sink = .opened handle ∧
        m.files.openToWrite m.location (Utf8.encode t) = .ok (handle, files) := by
  rcases target with _ | t
  · obtain ⟨rfl, rfl⟩ := Prod.mk.inj (Except.ok.inj h)
    exact .inl ⟨rfl, rfl, rfl⟩
  · rw [openSink] at h
    split at h
    · exact absurd h (by simp)
    · next handle files' hopen =>
      obtain ⟨rfl, rfl⟩ := Prod.mk.inj (Except.ok.inj h)
      exact .inr ⟨t, handle, rfl, rfl, hopen⟩

theorem grows_of_openSink {target : Option Text} {files : FileSystem}
    (h : openSink m.files m.location target = .ok (sink, files)) : m.files.Grows files := by
  rcases openSink_cases h with ⟨-, -, rfl⟩ | ⟨t, handle, -, -, hopen⟩
  · exact FileSystem.Grows.refl m.files
  · exact FileSystem.grows_of_openToWrite hopen

/-- A line runs what its name stands for, and what that is was settled before the target of its
redirection was opened. -/
theorem execute_eq_runCommand {words args : List Text} {name : Text} {target : Option Text}
    {files : FileSystem} (hsplit : splitRedirection words = .ok (name :: args, target))
    (hopen : openSink m.files m.location target = .ok (sink, files)) :
    execute m words = Outcome.after (redirectingEvents target)
      (Outcome.after [.event (.dispatching name (Command.ofName m.surroundings name).value)]
        (runCommand { m with files } sink (name :: args) name
          (Command.ofName m.surroundings name).value)) := by
  rw [execute_of_openSink_ok hsplit hopen, if_neg (List.cons_ne_nil name args), dispatch_cons,
    Machine.surroundings_of_grows (grows_of_openSink hopen)]

/-- A builtin that is not redirected carries out its calls and writes what it has to say. -/
theorem execute_builtin {b : Builtin} (hb : b ≠ .exit) {args : List Text} {reply : Reply Text}
    (hreply : replyOf m.surroundings (b.name :: args) b.name (.builtin b) = reply)
    (hargs : ∀ w ∈ (b.name :: args).dropLast, ¬ IsOperator w) :
    execute m (b.name :: args)
      = ⟨.ok .proceed, m.performAll reply.calls, [.event (.dispatching b.name (.builtin b)),
          .out (Utf8.encode reply.value)]⟩ := by
  have hmachine : { m.performAll reply.calls with files := m.files }
      = m.performAll reply.calls := by
    rw [← m.files_performAll reply.calls]
  have hrun : runCommand m .stdout (b.name :: args) b.name (.builtin b)
      = ⟨.ok .proceed, m.performAll reply.calls, [.out (Utf8.encode reply.value)]⟩ := by
    rw [runCommand_eq_answer (c := .builtin b) hb, hreply, answer_of_write_ok rfl, hmachine]
  rw [execute_of_forall_dropLast_not (List.cons_ne_nil _ _) hargs, dispatch_cons,
    Command.ofName_of_builtin, hrun]
  rfl

/-- A line leaves the files as they were opened for it, or with what was written to its sink. -/
theorem files_execute_of_openSink {words args : List Text} {target : Option Text}
    {files : FileSystem} (hsplit : splitRedirection words = .ok (args, target))
    (hopen : openSink m.files m.location target = .ok (sink, files)) :
    (execute m words).machine.files = files ∨
      ∃ bytes shown, sink.write files bytes = .ok ((execute m words).machine.files, shown) := by
  rw [execute_of_openSink_ok hsplit hopen, Outcome.machine_after]
  rcases args with _ | ⟨name, rest⟩
  · exact .inl rfl
  · rw [if_neg (List.cons_ne_nil name rest)]
    exact (actsWithin_dispatch { m with files } sink name rest).files

theorem execute_machine_eq (m : Machine) (words : List Text) :
    (execute m words).machine
      = { m with
          files := (execute m words).machine.files
          location := (execute m words).machine.location } := by
  rcases redirection_cases m words with
    hno | ⟨args, target, cause, hto, hopen⟩ | ⟨args, target, handle, files, hto, hopen⟩
  · rcases words with _ | ⟨name, rest⟩
    · rfl
    · rw [execute_of_forall_dropLast_not (List.cons_ne_nil name rest) hno]
      exact (actsWithin_dispatch m .stdout name rest).eq
  · rw [execute_of_redirectsTo_of_error hto hopen]
  · rw [execute_of_redirectsTo hto hopen, Outcome.machine_after]
    rcases args with _ | ⟨name, rest⟩
    · rfl
    · rw [if_neg (List.cons_ne_nil name rest)]
      exact (actsWithin_dispatch { m with files } (.opened handle) name rest).eq

/-- **A line changes the file that its target leads to, and no other.** -/
theorem files_execute (m : Machine) (words : List Text) :
    (execute m words).machine.files = m.files ∨
      ∃ args target place, RedirectsTo words args target ∧
        m.files.Rewrites m.location (Utf8.encode target) place
          (execute m words).machine.files := by
  rcases redirection_cases m words with
    hno | ⟨args, target, cause, hto, hopen⟩ | ⟨args, target, handle, files, hto, hopen⟩
  · left
    rcases words with _ | ⟨name, rest⟩
    · rfl
    · rw [execute_of_forall_dropLast_not (List.cons_ne_nil name rest) hno]
      exact files_dispatch_stdout m name rest
  · left
    rw [execute_of_redirectsTo_of_error hto hopen]
  · rw [execute_of_redirectsTo hto hopen, Outcome.machine_after]
    cases handle with
    | file place =>
      have hopens := FileSystem.opens_of_openToWrite hopen
      refine .inr ⟨args, target, place, hto, ?_⟩
      rcases args with _ | ⟨name, rest⟩
      · exact hopens.rewrites hopens.filled_nil
      · rw [if_neg (List.cons_ne_nil name rest)]
        have hacts := actsWithin_dispatch { m with files } (.opened (.file place)) name rest
        rcases hacts.files_file with h | ⟨bytes, h⟩
        · rw [h]
          exact hopens.rewrites hopens.filled_nil
        · rw [h]
          exact hopens.rewrites (hopens.filled_append bytes)
    | device kind =>
      left
      obtain rfl := FileSystem.eq_of_openToWrite_device hopen
      rcases args with _ | ⟨name, rest⟩
      · rfl
      · rw [if_neg (List.cons_ne_nil name rest)]
        exact (actsWithin_dispatch m (.opened (.device kind)) name rest).files_device

theorem grows_execute (m : Machine) (words : List Text) :
    m.files.Grows (execute m words).machine.files := by
  rcases files_execute m words with h | ⟨args, target, place, -, h⟩
  · rw [h]
    exact FileSystem.Grows.refl m.files
  · exact h.grows

end LineShell.Shell
