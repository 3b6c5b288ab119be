import LineShell.Proofs.Command.Lookup
import LineShell.Proofs.Redirection.Splitting
import LineShell.Shell

/-!
# How lines end

A line can end in many ways, but a session asks only one thing of it: whether to go on. The answer
depends on little. A line ends the session if its command is `exit`, once its redirection has been
taken out and opened (`result_execute_eq_exit_iff`). Otherwise the session goes on, whether the line
had an error or not (`not_isFatal_of_result_execute`): the target of its redirection could not be
opened, or its output could not be written. What programs do, and how they end, does not come into
it.

## One statement for each function

`Outcome.GoesOn` says of an outcome that the session goes on after it. Each function that runs a
command has one lemma about it, and those of its callers cite that lemma. In the same way, all of
them emit what comes out of commands (`Emission.IsOfCommand`), and that is no prompt.
-/

namespace LineShell

/-- Whether the session goes on after an outcome: its command came to its end, or its output could
not be written. -/
def Outcome.GoesOn (o : Outcome Flow) : Prop :=
  o.result = .ok .proceed ∨ ∃ cause, o.result = .error (.error (.io cause))

theorem Outcome.GoesOn.after {o : Outcome Flow} (h : o.GoesOn) (before : Transcript) :
    (o.after before).GoesOn := h

@[simp] theorem Outcome.result_after {α : Type} (o : Outcome α) (before : Transcript) :
    (o.after before).result = o.result := rfl

@[simp] theorem Outcome.machine_after {α : Type} (o : Outcome α) (before : Transcript) :
    (o.after before).machine = o.machine := rfl

@[simp] theorem Outcome.transcript_after {α : Type} (o : Outcome α) (before : Transcript) :
    (o.after before).transcript = before ++ o.transcript := rfl

/-- Whether an emission can come out of a command: bytes that it writes, or an event that tells how
it is looked up and run. -/
def Emission.IsOfCommand : Emission → Prop
  | .out _ | .err _ => True
  | .event (.dispatching ..) | .event (.failedToRun ..) | .event (.finished ..) => True
  | .prompt _ | .event _ => False

theorem Transcript.prompts_eq_nil {t : Transcript} (h : ∀ e ∈ t, e.IsOfCommand) :
    t.prompts = [] := by
  refine List.flatMap_eq_nil_iff.2 fun e he ↦ ?_
  have he := h e he
  cases e with
  | prompt bytes => exact absurd he id
  | out bytes => rfl
  | err bytes => rfl
  | event event => rfl

namespace Shell

/-- The name of the command that ends a session. -/
abbrev exitName : Text := Builtin.name .exit

/-! ## Lines as commands -/

/-- Runs what the name of a command stands for. -/
def runCommand (m : Machine) (sink : Sink) (args : List Text) (name : Text) :
    Command → Outcome Flow
  | .builtin b => runBuiltin m sink args b
  | .external path => runProgram m sink path args
  | .notFound => deliver m sink (notFoundText name)

/-- A command is what its first argument stands for. -/
theorem dispatch_cons (m : Machine) (sink : Sink) (name : Text) (rest : List Text) :
    dispatch m sink (name :: rest)
      = (runCommand m sink (name :: rest) name (Command.ofName m.surroundings name).value).after
          [.event (.dispatching name (Command.ofName m.surroundings name).value)] := by
  rw [dispatch]
  simp only [List.getElem?_cons_zero]
  cases (Command.ofName m.surroundings name).value <;> rfl

/-- The events that tell of a redirection. -/
def redirectingEvents (target : Option Text) : Transcript :=
  target.toList.map fun t ↦ .event (.redirecting t)

theorem execute_of_openSink_ok {m : Machine} {words args : List Text} {target : Option Text}
    {sink : Sink} {files : FileSystem} (hsplit : splitRedirection words = .ok (args, target))
    (hopen : openSink m.files m.location target = .ok (sink, files)) :
    execute m words
      = Outcome.after (redirectingEvents target)
          (if args = [] then ⟨.ok .proceed, { m with files }, []⟩
            else dispatch { m with files } sink args) := by
  by_cases hw : words = []
  · subst hw
    obtain ⟨rfl, rfl⟩ : [] = args ∧ none = target := Prod.mk.inj (Except.ok.inj hsplit)
    obtain ⟨rfl, rfl⟩ : .stdout = sink ∧ m.files = files := Prod.mk.inj (Except.ok.inj hopen)
    rfl
  · rw [execute, if_neg hw, hsplit]
    simp only [hopen, redirectingEvents]

theorem execute_of_openSink_eq_error {m : Machine} {words args : List Text} {target : Option Text}
    {e : ShellError} (hsplit : splitRedirection words = .ok (args, target))
    (hopen : openSink m.files m.location target = .error e) :
    execute m words = ⟨.error (.error e), m, redirectingEvents target⟩ := by
  refine execute_of_openSink_error hsplit hopen ?_
  rintro rfl
  obtain ⟨-, rfl⟩ : [] = args ∧ none = target := Prod.mk.inj (Except.ok.inj hsplit)
  exact absurd hopen (by simp [openSink])

/-- Words with no redirection are the arguments of a command that writes to standard output. -/
theorem execute_of_forall_dropLast_not {m : Machine} {words : List Text} (hne : words ≠ [])
    (h : ∀ w ∈ words.dropLast, ¬ IsOperator w) : execute m words = dispatch m .stdout words := by
  have hopen : openSink m.files m.location none = .ok (.stdout, m.files) := rfl
  rw [execute_of_openSink_ok (splitRedirection_eq_none_iff.2 ⟨rfl, h⟩) hopen, if_neg hne]
  rfl

theorem openSink_of_ok {fs files : FileSystem} {l : Location} {target : Text} {handle : Handle}
    (h : fs.openToWrite l (Utf8.encode target) = .ok (handle, files)) :
    openSink fs l (some target) = .ok (.opened handle, files) := by
  rw [openSink, h]

theorem openSink_of_error {fs : FileSystem} {l : Location} {target : Text} {cause : Fault}
    (h : fs.openToWrite l (Utf8.encode target) = .error cause) :
    openSink fs l (some target) = .error (.redirect target cause) := by
  rw [openSink, h]

theorem execute_of_redirectsTo {m : Machine} {words args : List Text} {target : Text}
    {handle : Handle} {files : FileSystem} (h : RedirectsTo words args target)
    (hopen : m.files.openToWrite m.location (Utf8.encode target) = .ok (handle, files)) :
    execute m words
      = Outcome.after [.event (.redirecting target)]
          (if args = [] then ⟨.ok .proceed, { m with files }, []⟩
            else dispatch { m with files } (.opened handle) args) :=
  execute_of_openSink_ok (splitRedirection_eq_some_iff.2 h) (openSink_of_ok hopen)

theorem execute_of_redirectsTo_of_error {m : Machine} {words args : List Text} {target : Text}
    {cause : Fault} (h : RedirectsTo words args target)
    (hopen : m.files.openToWrite m.location (Utf8.encode target) = .error cause) :
    execute m words
      = ⟨.error (.error (.redirect target cause)), m, [.event (.redirecting target)]⟩ :=
  execute_of_openSink_eq_error (splitRedirection_eq_some_iff.2 h) (openSink_of_error hopen)

/-- Words are redirected to a target, which opens or does not, or to none. -/
theorem redirection_cases (m : Machine) (words : List Text) :
    (∀ w ∈ words.dropLast, ¬ IsOperator w) ∨
      (∃ args target cause, RedirectsTo words args target ∧
        m.files.openToWrite m.location (Utf8.encode target) = .error cause) ∨
      ∃ args target handle files, RedirectsTo words args target ∧
        m.files.openToWrite m.location (Utf8.encode target) = .ok (handle, files) := by
  rcases redirectsTo_or words with hno | ⟨args, target, hto⟩
  · exact .inl hno
  · right
    rcases hopen : m.files.openToWrite m.location (Utf8.encode target) with e | ⟨handle, files⟩
    · exact .inl ⟨args, target, e, hto, hopen⟩
    · exact .inr ⟨args, target, handle, files, hto, hopen⟩

/-! ## The session goes on -/

theorem goesOn_deliver (m : Machine) (sink : Sink) (output : Text) :
    (deliver m sink output).GoesOn := by
  rw [deliver]
  split
  · exact .inl rfl
  · exact .inr ⟨_, rfl⟩

theorem goesOn_answer (m : Machine) (sink : Sink) (reply : Reply Text) :
    (answer m sink reply).GoesOn :=
  goesOn_deliver _ sink reply.value

theorem result_runProgram (m : Machine) (sink : Sink) (path : Path) (args : List Text) :
    (runProgram m sink path args).result = .ok .proceed := by
  rw [runProgram]
  split <;> rfl

theorem goesOn_runProgram (m : Machine) (sink : Sink) (path : Path) (args : List Text) :
    (runProgram m sink path args).GoesOn :=
  .inl (result_runProgram m sink path args)

theorem goesOn_runBuiltin (m : Machine) (sink : Sink) (name : Text) (rest : List Text)
    {b : Builtin} (hb : b ≠ .exit) : (runBuiltin m sink (name :: rest) b).GoesOn := by
  cases b with
  | exit => exact absurd rfl hb
  | echo => exact goesOn_deliver m sink _
  | type => exact goesOn_answer m sink _
  | pwd => exact goesOn_answer m sink _
  | cd => exact goesOn_answer m sink _

/-- After every command but one the session goes on. -/
theorem goesOn_dispatch (m : Machine) (sink : Sink) {name : Text} (hname : name ≠ exitName)
    (rest : List Text) : (dispatch m sink (name :: rest)).GoesOn := by
  rw [dispatch_cons]
  refine Outcome.GoesOn.after ?_ _
  cases hc : (Command.ofName m.surroundings name).value with
  | builtin b =>
    have hb : b.name = name := Command.value_ofName_eq_builtin_iff.1 hc
    refine goesOn_runBuiltin m sink name rest fun he ↦ hname ?_
    rw [← hb, he]
  | external path => exact goesOn_runProgram m sink path _
  | notFound => exact goesOn_deliver m sink _

theorem dispatch_exitName (m : Machine) (sink : Sink) (rest : List Text) :
    dispatch m sink (exitName :: rest)
      = ⟨.ok (.exit (Builtin.exitCode (exitName :: rest))), m,
          [.event (.dispatching exitName (.builtin .exit))]⟩ := by
  rw [dispatch_cons, Command.ofName_of_builtin]
  rfl

/-! ## Lines -/

/-- A line goes on, or fails to open its redirection, unless its command is `exit`. -/
theorem execute_ends (m : Machine) (words : List Text) :
    (execute m words).GoesOn ∨
      (∃ target cause, (execute m words).result = .error (.error (.redirect target cause))) ∨
      ∃ rest target opened, splitRedirection words = .ok (exitName :: rest, target) ∧
        openSink m.files m.location target = .ok opened ∧
        (execute m words).result = .ok (.exit (Builtin.exitCode (exitName :: rest))) := by
  obtain ⟨args, target, hsplit⟩ := exists_splitRedirection_eq words
  rcases hopen : openSink m.files m.location target with e | ⟨sink, files⟩
  · right; left
    rw [execute_of_openSink_eq_error hsplit hopen]
    rcases target with _ | t
    · exact absurd hopen (by simp [openSink])
    · rw [openSink] at hopen
      split at hopen
      · next cause _ => exact ⟨t, cause, by rw [Except.error.inj hopen]⟩
      · exact absurd hopen (by simp)
  · rw [execute_of_openSink_ok hsplit hopen]
    -- A redirection may be all that there is, and then no command is run.
    rcases args with _ | ⟨name, rest⟩
    · exact .inl (.inl rfl)
    · by_cases hname : name = exitName
      · subst hname
        refine .inr (.inr ⟨rest, target, _, hsplit, hopen, ?_⟩)
        rw [if_neg (List.cons_ne_nil _ _), dispatch_exitName]
        rfl
      · left
        rw [if_neg (List.cons_ne_nil _ _)]
        exact (goesOn_dispatch _ sink hname rest).after _

/-- **No line ends with a fatal error,** and none asks a list for a member that it does not have. -/
theorem not_isFatal_of_result_execute {m : Machine} {words : List Text} {halt : Halt}
    (h : (execute m words).result = .error halt) : ∃ e, halt = .error e ∧ ¬ e.IsFatal := by
  rcases execute_ends m words with
    (hok | ⟨cause, hio⟩) | ⟨t, cause, hr⟩ | ⟨rest, t, s, -, -, hexit⟩
  · exact absurd (hok.symm.trans h) (by simp)
  · exact ⟨.io cause, (Except.error.inj (hio.symm.trans h)).symm, id⟩
  · exact ⟨.redirect t cause, (Except.error.inj (hr.symm.trans h)).symm, id⟩
  · exact absurd (hexit.symm.trans h) (by simp)

/-- **A line ends the session exactly when its command is `exit` and its redirection was
opened.** -/
theorem result_execute_eq_exit_iff {m : Machine} {words : List Text} {code : Int} :
    (execute m words).result = .ok (.exit code) ↔
      ∃ rest target opened, splitRedirection words = .ok (exitName :: rest, target) ∧
        openSink m.files m.location target = .ok opened ∧
        code = Builtin.exitCode (exitName :: rest) := by
  constructor
  · intro h
    rcases execute_ends m words with
      (hok | ⟨cause, hio⟩) | ⟨t, cause, hr⟩ | ⟨rest, t, s, hs, ho, he⟩
    · exact absurd (hok.symm.trans h) (by simp)
    · exact absurd (hio.symm.trans h) (by simp)
    · exact absurd (hr.symm.trans h) (by simp)
    · refine ⟨rest, t, s, hs, ho, ?_⟩
      rw [h] at he
      exact Flow.exit.inj (Except.ok.inj he)
  · rintro ⟨rest, target, ⟨sink, files⟩, hsplit, hopen, rfl⟩
    rw [execute_of_openSink_ok hsplit hopen, if_neg (List.cons_ne_nil _ _), dispatch_exitName]
    rfl

/-! ## What comes out of a command -/

theorem isOfCommand_deliver (m : Machine) (sink : Sink) (output : Text) :
    ∀ e ∈ (deliver m sink output).transcript, e.IsOfCommand := by
  rw [deliver]
  split
  · exact List.forall_mem_singleton.2 trivial
  · exact List.forall_mem_nil _

theorem isOfCommand_runProgram (m : Machine) (sink : Sink) (path : Path) (args : List Text) :
    ∀ e ∈ (runProgram m sink path args).transcript, e.IsOfCommand := by
  rw [runProgram]
  split
  · exact List.forall_mem_singleton.2 trivial
  · next report _ =>
    have hpoured : ∀ e ∈ (pour m sink report.out).2, e.IsOfCommand := by
      rw [pour]
      split
      · exact List.forall_mem_singleton.2 trivial
      · exact List.forall_mem_nil _
    refine List.forall_mem_append.2 ⟨hpoured, List.forall_mem_cons.2 ⟨trivial, ?_⟩⟩
    exact List.forall_mem_singleton.2 trivial

theorem isOfCommand_runBuiltin (m : Machine) (sink : Sink) (args : List Text) (b : Builtin) :
    ∀ e ∈ (runBuiltin m sink args b).transcript, e.IsOfCommand := by
  cases b with
  | exit => exact List.forall_mem_nil _
  | echo =>
    rw [runBuiltin]
    split
    · exact List.forall_mem_nil _
    · exact isOfCommand_deliver m sink _
  | type => exact isOfCommand_deliver _ sink _
  | pwd => exact isOfCommand_deliver _ sink _
  | cd => exact isOfCommand_deliver _ sink _

theorem isOfCommand_dispatch (m : Machine) (sink : Sink) (name : Text) (rest : List Text) :
    ∀ e ∈ (dispatch m sink (name :: rest)).transcript, e.IsOfCommand := by
  rw [dispatch_cons, Outcome.transcript_after]
  refine List.forall_mem_append.2 ⟨List.forall_mem_singleton.2 trivial, ?_⟩
  cases (Command.ofName m.surroundings name).value with
  | builtin b => exact isOfCommand_runBuiltin m sink _ b
  | external path => exact isOfCommand_runProgram m sink path _
  | notFound => exact isOfCommand_deliver m sink _

/-- No line prompts. -/
theorem prompts_execute (m : Machine) (words : List Text) :
    (execute m words).transcript.prompts = [] := by
  obtain ⟨args, target, hsplit⟩ := exists_splitRedirection_eq words
  have hevents : (redirectingEvents target).prompts = [] := by
    rcases target with _ | t <;> rfl
  rcases hopen : openSink m.files m.location target with e | ⟨sink, files⟩
  · rw [execute_of_openSink_eq_error hsplit hopen]
    exact hevents
  · rw [execute_of_openSink_ok hsplit hopen, Outcome.transcript_after, Transcript.prompts_append,
      hevents]
    rcases args with _ | ⟨name, rest⟩
    · rfl
    · exact Transcript.prompts_eq_nil (isOfCommand_dispatch _ sink name rest)

end Shell

end LineShell
