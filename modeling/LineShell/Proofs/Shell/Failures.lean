import LineShell.Proofs.FileSystem.Opening
import LineShell.Proofs.Machine.Growth
import LineShell.Proofs.Shell.Answers
import LineShell.Proofs.Transcript.Errors

/-!
# How lines fail

A line fails in two ways. The target of its redirection cannot be opened (`CannotOpen`), and then
nobody has even asked what its command is; or the target was opened, and what the shell itself has
to write cannot be written to it (`CannotWrite`). Either way the machine is left as it was, and
nothing has come out of the line (`execute_fails_iff`).

What is to be written is what the command writes to standard output when it is not redirected, so
the second condition is said with a second run of the command and not with its text.

## What does not fail

A program writes for itself, and what becomes of that is its own affair. A command that has nothing
to say cannot fail to say it: `exit` ends the session and a `cd` that succeeds has moved, whatever
the target takes.
-/

namespace LineShell.Shell

variable {m : Machine} {sink : Sink} {name : Text} {rest words : List Text}

/-! ## Answers -/

theorem answer_of_write_error {reply : Reply Text} {cause : Fault}
    (h : sink.write m.files (Utf8.encode reply.value) = .error cause) :
    answer m sink reply = ⟨.error (.error (.io cause)), m.performAll reply.calls, []⟩ := by
  rw [answer, deliver, Machine.files_performAll, h]

theorem answer_of_write_ok {reply : Reply Text} {files : FileSystem} {shown : Bytes}
    (h : sink.write m.files (Utf8.encode reply.value) = .ok (files, shown)) :
    answer m sink reply
      = ⟨.ok .proceed, { m.performAll reply.calls with files }, [.out shown]⟩ := by
  rw [answer, deliver, Machine.files_performAll, h]

theorem output_answer_stdout (m : Machine) (reply : Reply Text) :
    (answer m .stdout reply).transcript.output = Utf8.encode reply.value := by
  rw [answer_of_write_ok rfl]
  exact List.append_nil _

/-- Where there is nothing to say, only the calls are left, and they have been carried out. -/
theorem answer_of_value_eq_nil (m : Machine) (sink : Sink) {reply : Reply Text}
    (h : reply.value = []) :
    (answer m sink reply).result = .ok .proceed ∧
      (answer m sink reply).machine.location = (m.performAll reply.calls).location := by
  rcases hwrite : sink.write m.files (Utf8.encode reply.value) with cause | ⟨files, shown⟩
  · have hne := (Sink.write_eq_error_iff.1 hwrite).2.1
    rw [h] at hne
    exact absurd rfl hne
  · rw [answer_of_write_ok hwrite]
    exact ⟨rfl, rfl⟩

/-! ## Commands -/

/-- **A command fails exactly if what the shell itself has to write for it cannot be written.** -/
theorem result_dispatch_eq_error_iff {halt : Halt} :
    (dispatch m sink (name :: rest)).result = .error halt ↔
      (∀ path, (Command.ofName m.surroundings name).value ≠ .external path) ∧
        ∃ cause, sink.write m.files (dispatch m .stdout (name :: rest)).transcript.output
          = .error cause ∧ halt = .error (.io cause) := by
  rw [dispatch_cons, dispatch_cons, Outcome.result_after, Outcome.transcript_after,
    Transcript.output_append]
  generalize (Command.ofName m.surroundings name).value = c
  have hevent : Transcript.output [.event (.dispatching name c)] = [] := rfl
  rw [hevent, List.nil_append]
  rcases command_cases c with rfl | ⟨path, rfl⟩ | hc
  · -- The end of a session says nothing, so nothing can refuse it.
    rw [runCommand_exit, runCommand_exit]
    constructor
    · intro h
      exact absurd h (by simp)
    · rintro ⟨-, cause, hwrite, -⟩
      exact absurd rfl (Sink.write_eq_error_iff.1 hwrite).2.1
  · constructor
    · intro h
      exact absurd ((result_runProgram m sink path _).symm.trans h) (by simp)
    · rintro ⟨hno, -⟩
      exact absurd rfl (hno path)
  · rw [runCommand_eq_answer hc, runCommand_eq_answer hc, output_answer_stdout]
    rcases hwrite : sink.write m.files (Utf8.encode _) with cause | ⟨files, shown⟩
    · rw [answer_of_write_error hwrite]
      constructor
      · intro h
        exact ⟨hc.ne_external, cause, rfl, (Except.error.inj h).symm⟩
      · rintro ⟨-, cause', hcause, rfl⟩
        rw [Except.error.inj hcause]
    · rw [answer_of_write_ok hwrite]
      constructor
      · intro h
        exact absurd h (by simp)
      · rintro ⟨-, cause, hcause, -⟩
        exact absurd hcause (by simp)

/-- A command that fails has done nothing, and says nothing. -/
theorem dispatch_of_result_eq_error {halt : Halt}
    (h : (dispatch m sink (name :: rest)).result = .error halt) :
    dispatch m sink (name :: rest)
      = ⟨.error halt, m,
          [.event (.dispatching name (Command.ofName m.surroundings name).value)]⟩ := by
  rw [dispatch_cons] at h ⊢
  generalize (Command.ofName m.surroundings name).value = c at h ⊢
  rw [Outcome.result_after] at h
  rcases command_cases c with rfl | ⟨path, rfl⟩ | hc
  · exact absurd h (by simp [runCommand_exit])
  · exact absurd ((result_runProgram m sink path _).symm.trans h) (by simp)
  · rw [runCommand_eq_answer hc] at h ⊢
    rcases hwrite : sink.write m.files
        (Utf8.encode (replyOf m.surroundings (name :: rest) name c).value) with
      cause | ⟨files, shown⟩
    · have hspeaks : (replyOf m.surroundings (name :: rest) name c).value ≠ [] := by
        intro hnil
        rw [hnil] at hwrite
        exact (Sink.write_eq_error_iff.1 hwrite).2.1 rfl
      rw [answer_of_write_error hwrite] at h ⊢
      rw [performAll_replyOf hspeaks, ← h]
      rfl
    · rw [answer_of_write_ok hwrite] at h
      exact absurd h (by simp)

/-! ## Lines -/

/-- Whether some words are redirected to a target that cannot be opened. -/
def CannotOpen (m : Machine) (words : List Text) (target : Text) (cause : Fault) : Prop :=
  ∃ args, RedirectsTo words args target ∧
    m.files.openToWrite m.location (Utf8.encode target) = .error cause

/-- Whether some words are redirected to a target that opens, and their command is no program but
has something to write, which cannot be written to the target. -/
def CannotWrite (m : Machine) (words : List Text) (target name : Text) (cause : Fault) : Prop :=
  ∃ rest handle files, RedirectsTo words (name :: rest) target ∧
    m.files.openToWrite m.location (Utf8.encode target) = .ok (handle, files) ∧
    (∀ path, (Command.ofName m.surroundings name).value ≠ .external path) ∧
    (dispatch m .stdout (name :: rest)).transcript.output ≠ [] ∧
    files.write handle (dispatch m .stdout (name :: rest)).transcript.output = .error cause

/-- A write that fails goes to a device, and opening that has changed nothing. -/
theorem eq_of_write_error {fs files : FileSystem} {l : Location} {p : Path} {handle : Handle}
    {bytes : Bytes} {cause : Fault} (hopen : fs.openToWrite l p = .ok (handle, files))
    (hwrite : files.write handle bytes = .error cause) : files = fs := by
  obtain ⟨rfl, -, -⟩ := FileSystem.write_eq_error_iff.1 hwrite
  exact FileSystem.eq_of_openToWrite_device hopen

theorem CannotWrite.execute_eq {target : Text} {cause : Fault}
    (h : CannotWrite m words target name cause) :
    execute m words
      = ⟨.error (.error (.io cause)), m, [.event (.redirecting target),
          .event (.dispatching name (Command.ofName m.surroundings name).value)]⟩ := by
  obtain ⟨rest, handle, files, hto, hopen, hprogram, -, hwrite⟩ := h
  obtain rfl := eq_of_write_error hopen hwrite
  have hsink : Sink.write m.files (dispatch m .stdout (name :: rest)).transcript.output
      (.opened handle) = .error cause := by
    rw [Sink.write, hwrite]
    rfl
  have hresult := result_dispatch_eq_error_iff.2 ⟨hprogram, cause, hsink, rfl⟩
  rw [execute_of_redirectsTo hto hopen, if_neg (List.cons_ne_nil name rest)]
  rw [dispatch_of_result_eq_error hresult]
  rfl

theorem CannotOpen.execute_eq {target : Text} {cause : Fault}
    (h : CannotOpen m words target cause) :
    execute m words
      = ⟨.error (.error (.redirect target cause)), m, [.event (.redirecting target)]⟩ := by
  obtain ⟨args, hto, hopen⟩ := h
  exact execute_of_redirectsTo_of_error hto hopen

theorem result_dispatch_stdout_ne_error (m : Machine) (name : Text) (rest : List Text)
    (halt : Halt) : (dispatch m .stdout (name :: rest)).result ≠ .error halt := by
  rw [ne_eq, result_dispatch_eq_error_iff]
  rintro ⟨-, cause, hwrite, -⟩
  exact absurd (Sink.write_eq_error_iff.1 hwrite).1 (by simp)

theorem cannotOpen_or_cannotWrite {halt : Halt} (h : (execute m words).result = .error halt) :
    (∃ target cause, CannotOpen m words target cause) ∨
      ∃ target name cause, CannotWrite m words target name cause := by
  rcases redirection_cases m words with
    hno | ⟨args, target, cause, hto, hopen⟩ | ⟨args, target, handle, files, hto, hopen⟩
  · -- Standard output takes everything.
    rcases words with _ | ⟨name, rest⟩
    · exact absurd h (by simp)
    · rw [execute_of_forall_dropLast_not (List.cons_ne_nil name rest) hno] at h
      exact absurd h (result_dispatch_stdout_ne_error m name rest halt)
  · exact .inl ⟨target, cause, args, hto, hopen⟩
  · right
    rw [execute_of_redirectsTo hto hopen, Outcome.result_after] at h
    rcases args with _ | ⟨name, rest⟩
    · exact absurd h (by simp)
    · rw [if_neg (List.cons_ne_nil name rest), result_dispatch_eq_error_iff] at h
      obtain ⟨hprogram, cause, hwrite, rfl⟩ := h
      obtain ⟨hfull, hne, -⟩ := Sink.write_eq_error_iff.1 hwrite
      obtain rfl : handle = .device .full := Sink.opened.inj hfull
      obtain rfl := FileSystem.eq_of_openToWrite_device hopen
      refine ⟨target, name, cause, rest, _, _, hto, hopen, hprogram, hne, ?_⟩
      have hcause := (Sink.write_eq_error_iff.1 hwrite).2.2
      exact FileSystem.write_eq_error_iff.2 ⟨rfl, hne, hcause⟩

/-! ## Commands that cannot fail -/

/-- The machine on which a redirected command runs is surrounded as before. -/
theorem surroundings_of_openToWrite {handle : Handle} {files : FileSystem} {target : Text}
    (hopen : m.files.openToWrite m.location (Utf8.encode target) = .ok (handle, files)) :
    ({ m with files } : Machine).surroundings = m.surroundings :=
  Machine.surroundings_of_grows (FileSystem.grows_of_openToWrite hopen)

theorem result_dispatch_external {path : Path}
    (h : (Command.ofName m.surroundings name).value = .external path) :
    (dispatch m sink (name :: rest)).result = .ok .proceed := by
  rw [dispatch_cons, h]
  exact result_runProgram m sink path _

/-- A `cd` that has nothing to say moves, wherever its output goes. -/
theorem dispatch_cd_of_silent (sink : Sink) {args : List Text}
    (h : (Builtin.runCd m.surroundings ("cd".toList :: args)).value = []) :
    (dispatch m sink ("cd".toList :: args)).result = .ok .proceed ∧
      ∀ p ∈ movesOf (Builtin.runCd m.surroundings ("cd".toList :: args)).calls,
        m.files.enter m.location p
          = .ok (dispatch m sink ("cd".toList :: args)).machine.location := by
  have hcd : Command.ofName m.surroundings "cd".toList = ⟨.builtin .cd, []⟩ :=
    Command.ofName_of_builtin m.surroundings .cd
  have hne : Builtin.cd ≠ .exit := by decide
  have hanswered : IsAnswered (.builtin .cd) := hne
  rw [dispatch_cons, hcd, Outcome.result_after, Outcome.machine_after,
    runCommand_eq_answer hanswered]
  obtain ⟨hresult, hlocation⟩ := answer_of_value_eq_nil m sink h
  refine ⟨hresult, fun p hp ↦ ?_⟩
  exact (enter_of_mem_movesOf_runCd h hp).trans (congrArg Except.ok hlocation.symm)

/-! ## The main statement -/

/-- **How a line fails.** It fails exactly if the target of its redirection cannot be opened, or if
that was opened but the command, which is no program, cannot write its output there. In the first
case nothing has happened but that the redirection was begun, and in the second nothing but that the
command was looked up; the machine is as it was, and nothing has come out. Whatever the target
takes, `exit` ends the session, a `cd` without a message has moved, and after a program the session
goes on. -/
theorem execute_fails_iff (m : Machine) (words : List Text) :
    let o := execute m words
    (∀ halt, o.result = .error halt ↔
        (∃ target cause, CannotOpen m words target cause ∧
          halt = .error (.redirect target cause)) ∨
        ∃ target name cause, CannotWrite m words target name cause ∧
          halt = .error (.io cause)) ∧
      (∀ target cause, CannotOpen m words target cause →
        o.machine = m ∧ o.transcript = [.event (.redirecting target)]) ∧
      (∀ target name cause, CannotWrite m words target name cause →
        o.machine = m ∧ o.transcript = [.event (.redirecting target),
          .event (.dispatching name (Command.ofName m.surroundings name).value)]) ∧
      (∀ halt, o.result = .error halt →
        o.machine = m ∧ o.transcript.stdout = [] ∧ o.transcript.errors = []) ∧
      ∀ args target handle files, RedirectsTo words args target →
        m.files.openToWrite m.location (Utf8.encode target) = .ok (handle, files) →
        (∀ rest, args = exitName :: rest →
          o.result = .ok (.exit (Builtin.exitCode (exitName :: rest)))) ∧
        (∀ rest, args = "cd".toList :: rest → (Builtin.runCd m.surroundings args).value = [] →
          o.result = .ok .proceed ∧ ∀ p ∈ movesOf (Builtin.runCd m.surroundings args).calls,
            m.files.enter m.location p = .ok o.machine.location) ∧
        ∀ name rest path, args = name :: rest →
          (Command.ofName m.surroundings name).value = .external path →
          o.result = .ok .proceed := by
  intro o
  refine ⟨fun halt ↦ ⟨fun h ↦ ?_, ?_⟩, ?_, ?_, fun halt h ↦ ?_, ?_⟩
  · rcases cannotOpen_or_cannotWrite h with ⟨target, cause, hc⟩ | ⟨target, name, cause, hc⟩
    · refine .inl ⟨target, cause, hc, ?_⟩
      exact Except.error.inj (h.symm.trans (congrArg Outcome.result hc.execute_eq))
    · refine .inr ⟨target, name, cause, hc, ?_⟩
      exact Except.error.inj (h.symm.trans (congrArg Outcome.result hc.execute_eq))
  · rintro (⟨target, cause, hc, rfl⟩ | ⟨target, name, cause, hc, rfl⟩)
    · exact congrArg Outcome.result hc.execute_eq
    · exact congrArg Outcome.result hc.execute_eq
  · intro target cause hc
    exact ⟨congrArg Outcome.machine hc.execute_eq, congrArg Outcome.transcript hc.execute_eq⟩
  · intro target name cause hc
    exact ⟨congrArg Outcome.machine hc.execute_eq, congrArg Outcome.transcript hc.execute_eq⟩
  · rcases cannotOpen_or_cannotWrite h with ⟨target, cause, hc⟩ | ⟨target, name, cause, hc⟩
    all_goals
      have ho : o = _ := hc.execute_eq
      rw [ho]
      exact ⟨rfl, rfl, rfl⟩
  · intro args target handle files hto hopen
    have hs := surroundings_of_openToWrite hopen
    have ho : o = _ := execute_of_redirectsTo hto hopen
    refine ⟨?_, ?_, ?_⟩
    · rintro rest rfl
      rw [ho, if_neg (List.cons_ne_nil _ _), dispatch_exitName]
      rfl
    · rintro rest rfl hsilent
      rw [← hs] at hsilent
      obtain ⟨hresult, hmoves⟩ := dispatch_cd_of_silent (.opened handle) hsilent
      rw [ho, if_neg (List.cons_ne_nil _ _)]
      refine ⟨hresult, fun p hp ↦ ?_⟩
      rw [← hs] at hp
      exact (FileSystem.grows_of_openToWrite hopen).enter_eq_ok_iff.1 (hmoves p hp)
    · rintro name rest path rfl hpath
      rw [← hs] at hpath
      rw [ho, if_neg (List.cons_ne_nil _ _)]
      exact result_dispatch_external hpath

end LineShell.Shell
