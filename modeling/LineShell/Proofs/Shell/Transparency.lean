import LineShell.FileSystem.Arrival
import LineShell.FileSystem.Setup
import LineShell.Proofs.FileSystem.Opening
import LineShell.Proofs.Machine.BusyFile
import LineShell.Proofs.Machine.Growth
import LineShell.Proofs.Shell.Arguments
import LineShell.Proofs.Shell.Effects
import LineShell.Proofs.Transcript.Errors

/-!
# Redirection is transparent

A command whose output is redirected to a file does what it does without the redirection, and what
it would have written to standard output is the content of the file (`execute_insertRedirection`).
That is a statement about two runs on two file systems, since the file is created or emptied before
anything is known of the command.

## What carries over

The file systems differ by growth, so the surroundings of the command are the same, and it is the
same command. Whatever it is, its output is made before any of it is written, and written at once or
not at all. So `Redirects` relates the outcomes of each function that runs a command, and each has
one lemma about it. A program is started from the same files, unless one of them is the one that has
been emptied: this is the one thing that must be excluded.

It is not enough to exclude the file that the name stands for. If that is a script, and the target is
its interpreter, the name still stands for the script, but there is nothing left to interpret it
(`not_forall_execute_insertRedirection`).
-/

namespace LineShell.Shell

open FileSystem (textName textPlace)

/-! ## Two outcomes -/

/-- How the outcome of a command that writes to a file is related to that of one that writes to
standard output, if `files` are those with the file at `place` opened. -/
structure Redirects (place : Place) (files : FileSystem) (direct redirected : Outcome Flow) :
    Prop where
  /-- No command ends with an error if it can write. -/
  flow : ∃ flow, direct.result = .ok flow
  /-- Both end alike. -/
  result : redirected.result = direct.result
  /-- Both leave the same machine, but for its files. -/
  machine : redirected.machine = { direct.machine with files := redirected.machine.files }
  /-- What one writes to standard output is what the other leaves in the file. -/
  filled : files.Filled place direct.transcript.output redirected.machine.files
  /-- The other writes nothing to standard output. -/
  output : redirected.transcript.output = []
  /-- Both write the same to standard error. -/
  errors : redirected.transcript.errors = direct.transcript.errors

variable {m : Machine} {fs files : FileSystem} {place : Place} {l : Location} {p : Path}

theorem Redirects.after {o o' : Outcome Flow} (h : Redirects place files o o') {t t' : Transcript}
    (ht : t.IsSilent) (ht' : t'.IsSilent) : Redirects place files (o.after t) (o'.after t') where
  flow := h.flow
  result := h.result
  machine := h.machine
  filled := by
    rw [Outcome.transcript_after, Transcript.output_append, ht.1]
    exact h.filled
  output := by
    rw [Outcome.transcript_after, Transcript.output_append, ht'.1, h.output]
    rfl
  errors := by
    rw [Outcome.transcript_after, Outcome.transcript_after, Transcript.errors_append,
      Transcript.errors_append, ht.2, ht'.2, h.errors]

/-! ## Commands -/

theorem redirects_of_isSilent (hopen : fs.Opens l p place files) (flow : Flow)
    {t t' : Transcript} (ht : t.IsSilent) (ht' : t'.IsSilent) :
    Redirects place files ⟨.ok flow, m, t⟩ ⟨.ok flow, { m with files }, t'⟩ where
  flow := ⟨flow, rfl⟩
  result := rfl
  machine := rfl
  filled := by
    rw [ht.1]
    exact hopen.filled_nil
  output := ht'.1
  errors := by rw [ht.2, ht'.2]

theorem redirects_deliver (hopen : fs.Opens l p place files) (m : Machine) (output : Text) :
    Redirects place files (deliver m .stdout output)
      (deliver { m with files } (.opened (.file place)) output) where
  flow := ⟨.proceed, rfl⟩
  result := rfl
  machine := rfl
  filled := by
    have hout : (deliver m .stdout output).transcript.output = Utf8.encode output :=
      List.append_nil _
    rw [hout]
    exact hopen.filled_append _
  output := rfl
  errors := rfl

theorem redirects_answer (hopen : m.files.Opens l p place files) (reply : Reply Text) :
    Redirects place files (answer m .stdout reply)
      (answer { m with files } (.opened (.file place)) reply) := by
  rw [answer, answer, Machine.performAll_of_grows hopen.grows]
  exact redirects_deliver hopen _ _

theorem redirects_runProgram_of_launch (hopen : m.files.Opens l p place files) {path : Path}
    {args : List Text} {r : Report} (h : m.launch none path.explicit args = .ok r)
    (h' : ({ m with files } : Machine).launch (some place) path.explicit args = .ok r) :
    Redirects place files (runProgram m .stdout path args)
      (runProgram { m with files } (.opened (.file place)) path args) := by
  have hlaunch : ({ m with files } : Machine).launch (Sink.opened (.file place)).place?
      path.explicit args = .ok r := h'
  rw [runProgram_stdout_of_launch h, runProgram, hlaunch]
  refine ⟨⟨.proceed, rfl⟩, rfl, rfl, ?_, rfl, rfl⟩
  have hout : Transcript.output [.out r.out, .err r.err, .event (.finished path.explicit r.status)]
      = r.out := List.append_nil _
  rw [hout]
  exact hopen.filled_append r.out

theorem redirects_runProgram_of_launch_error (hopen : m.files.Opens l p place files) {path : Path}
    {args : List Text} {cause cause' : Fault} (h : m.launch none path.explicit args = .error cause)
    (h' : ({ m with files } : Machine).launch (some place) path.explicit args = .error cause') :
    Redirects place files (runProgram m .stdout path args)
      (runProgram { m with files } (.opened (.file place)) path args) := by
  rw [runProgram_of_launch_error h, runProgram_of_launch_error h']
  exact redirects_of_isSilent hopen .proceed ⟨rfl, rfl⟩ ⟨rfl, rfl⟩

theorem redirects_runProgram (hopen : m.files.Opens l p place files) {path : Path}
    (hexec : m.isExecutable path = true) (args : List Text)
    (hplace : ∀ i, m.start none path.explicit args = .ok i → place ∉ i.files) :
    Redirects place files (runProgram m .stdout path args)
      (runProgram { m with files } (.opened (.file place)) path args) := by
  obtain ⟨q, mode, content, hlocate, -⟩ := FileSystem.isExecutable_iff_exists_place.1 hexec
  have hsame (i : Invocation) :
      ({ m with files } : Machine).start (some place) path.explicit args = .ok i ↔
        m.start none path.explicit args = .ok i := by
    rw [Machine.start_eq_ok_iff_of_opens hopen hlocate]
    exact and_iff_left_of_imp (hplace i)
  rcases hstart : m.start none path.explicit args with cause | i
  · rcases hstart' : ({ m with files } : Machine).start (some place) path.explicit args
      with cause' | i'
    · exact redirects_runProgram_of_launch_error hopen (by rw [Machine.launch, hstart]; rfl)
        (by rw [Machine.launch, hstart']; rfl)
    · exact absurd (hstart.symm.trans ((hsame i').1 hstart')) (by simp)
  · have hstart' := (hsame i).2 hstart
    exact redirects_runProgram_of_launch hopen (by rw [Machine.launch, hstart]; rfl)
      (by rw [Machine.launch, hstart']; rfl)

theorem redirects_runBuiltin (hopen : m.files.Opens l p place files) (name : Text)
    (rest : List Text) (b : Builtin) :
    Redirects place files (runBuiltin m .stdout (name :: rest) b)
      (runBuiltin { m with files } (.opened (.file place)) (name :: rest) b) := by
  have hsurroundings := Machine.surroundings_of_grows hopen.grows
  rcases b with _ | _ | _ | _ | _
  · exact redirects_deliver hopen m _
  · exact redirects_of_isSilent hopen _ ⟨rfl, rfl⟩ ⟨rfl, rfl⟩
  all_goals
    rw [runBuiltin, runBuiltin, hsurroundings]
    exact redirects_answer hopen _

/-- A command is the same command with and without the redirection, and does the same. -/
theorem redirects_dispatch (hopen : m.files.Opens l p place files) (name : Text) (rest : List Text)
    (hplace : ∀ path i, (Command.ofName m.surroundings name).value = .external path →
      m.start none path.explicit (name :: rest) = .ok i → place ∉ i.files) :
    Redirects place files (dispatch m .stdout (name :: rest))
      (dispatch { m with files } (.opened (.file place)) (name :: rest)) := by
  rw [dispatch_cons, dispatch_cons, Machine.surroundings_of_grows hopen.grows]
  refine Redirects.after ?_ ⟨rfl, rfl⟩ ⟨rfl, rfl⟩
  rcases hcommand : (Command.ofName m.surroundings name).value with b | path | _
  · exact redirects_runBuiltin hopen name rest b
  · have hexec := Command.isExecutable_of_external hcommand
    exact redirects_runProgram hopen hexec (name :: rest) fun i ↦ hplace path i hcommand
  · exact redirects_deliver hopen m _

/-! ## Lines -/

/-- Some words with an operator and a target put at a position among them. -/
def insertRedirection (args : List Text) (k : Nat) (op target : Text) : List Text :=
  args.take k ++ op :: target :: args.drop k

theorem redirectsTo_insertRedirection {args : List Text} (hargs : ∀ w ∈ args, ¬ IsOperator w)
    {op : Text} (hop : IsOperator op) (k : Nat) (target : Text) :
    RedirectsTo (insertRedirection args k op target) args target := by
  have hpre : ∀ w ∈ args.take k, ¬ IsOperator w := fun w hw ↦ hargs w (List.mem_of_mem_take hw)
  exact ⟨_, op, _, rfl, (List.take_append_drop k args).symm, hpre, hop⟩

theorem execute_insertRedirection_eq {args : List Text} (hne : args ≠ [])
    (hargs : ∀ w ∈ args, ¬ IsOperator w) {op target : Text} (hop : IsOperator op) (k : Nat)
    {handle : Handle}
    (hopen : m.files.openToWrite m.location (Utf8.encode target) = .ok (handle, files)) :
    execute m (insertRedirection args k op target)
      = (dispatch { m with files } (.opened handle) args).after [.event (.redirecting target)] := by
  rw [execute_of_redirectsTo (redirectsTo_insertRedirection hargs hop k target) hopen, if_neg hne]

/-- **Redirection is transparent.** If the target of a redirection opens to a file that is not among
those that are opened to start the program, its own and, if it is a script, those of interpreters,
then wherever and however it is written, the command ends as it does without, leaves the shell in
the same directory, and writes the same to standard error, the log aside, and nothing to standard
output. The target then leads to a file with what would have been written there, and no other place
has changed. No name stands for anything else once the target has been opened, and the same
directories can be entered. -/
theorem execute_insertRedirection {args : List Text} (hne : args ≠ [])
    (hargs : ∀ w ∈ args, ¬ IsOperator w) {op target : Text} (hop : IsOperator op) (k : Nat)
    (hopen : m.files.openToWrite m.location (Utf8.encode target) = .ok (.file place, files))
    (hprogram : ∀ name path i, args.head? = some name →
      (Command.ofName m.surroundings name).value = .external path →
      m.start none path.explicit args = .ok i → place ∉ i.files) :
    let direct := execute m args
    let redirected := execute m (insertRedirection args k op target)
    (∃ flow, direct.result = .ok flow ∧ redirected.result = .ok flow) ∧
      redirected.machine = { direct.machine with files := redirected.machine.files } ∧
      redirected.transcript.output = [] ∧
      redirected.transcript.errors = direct.transcript.errors ∧
      redirected.machine.files.locate m.location (Utf8.encode target) = .ok (.ofPlace place) ∧
      (∃ mode, redirected.machine.files.node? place
        = some (.file mode (.data direct.transcript.output))) ∧
      (∀ q, q ≠ place → redirected.machine.files.node? q = direct.machine.files.node? q) ∧
      (∀ k' op', IsOperator op' → execute m (insertRedirection args k' op' target) = redirected) ∧
      (∀ name, Command.ofName ({ m with files } : Machine).surroundings name
        = Command.ofName m.surroundings name) ∧
      ∀ path target, files.enter m.location path = .ok target ↔
        m.files.enter m.location path = .ok target := by
  intro direct redirected
  obtain ⟨name, rest, rfl⟩ := List.exists_cons_of_ne_nil hne
  have hopens := FileSystem.opens_of_openToWrite hopen
  have hdirect : direct = dispatch m .stdout (name :: rest) := execute_of_forall_not hne hargs
  have hredirected : ∀ k op, IsOperator op →
      execute m (insertRedirection (name :: rest) k op target)
        = (dispatch { m with files } (.opened (.file place)) (name :: rest)).after
            [.event (.redirecting target)] :=
    fun k op hop ↦ execute_insertRedirection_eq hne hargs hop k hopen
  have h : Redirects place files direct redirected := by
    have hsame := redirects_dispatch hopens name rest fun path i ↦ hprogram name path i rfl
    have hredirected : redirected = _ := hredirected k op hop
    rw [hdirect, hredirected]
    exact Redirects.after (t := []) hsame ⟨rfl, rfl⟩ ⟨rfl, rfl⟩
  -- Without the redirection no file is touched, so all that differs is what was opened and filled.
  have hfiles : direct.machine.files = m.files := by
    rw [hdirect]
    exact files_dispatch_stdout m name rest
  obtain ⟨flow, hflow⟩ := h.flow
  obtain ⟨mode, -, hcontent⟩ := h.filled.node
  refine ⟨⟨flow, hflow, h.result.trans hflow⟩, h.machine, h.output, h.errors,
    h.filled.grows.locate hopens.leads, ⟨mode, hcontent⟩, fun q hq ↦ ?_, fun k' op' hop' ↦ ?_,
    fun name ↦ ?_, fun path target ↦ hopens.grows.enter_eq_ok_iff⟩
  · rw [h.filled.others q hq, hopens.others q hq, hfiles]
  · exact (hredirected k' op' hop').trans (hredirected k op hop).symm
  · rw [Machine.surroundings_of_grows hopens.grows]

/-- A machine with a program, `p`, that writes the arguments it is started with, and a script, `s`,
that it interprets. -/
def printer : Machine where
  files := ((FileSystem.empty.insert ([] ++ [textName "b"]) (.directory 0o755)).insert
    ([textName "b"] ++ [textName "p"]) (.file 0o755 .program)).insert
      ([textName "b"] ++ [textName "s"]) (.file 0o755 (.data (textName "#!/b/p\n")))
  location := .root
  searchPath := some (textName "/b")
  home := none
  behaviour i := ⟨[32].intercalate i.arguments, [], .exited 0⟩

/-- The program of that machine, with a redirection between its name and its argument. -/
theorem execute_insertRedirection_printer :
    ∃ mode, (execute printer ["p".toList, ">".toList, "o".toList, "x".toList]).machine.files.node?
      (textPlace ["o"]) = some (.file mode (.data (textName "p x"))) := by
  have hplain : ∀ w ∈ ["p".toList, "x".toList], ¬ IsOperator w := by decide
  have hopen : printer.files.openToWrite printer.location (Utf8.encode "o".toList)
      = .ok (.file (textPlace ["o"]), _) := rfl
  have hp : (Command.ofName printer.surroundings "p".toList).value
      = .external (textName "/b/p") := by decide
  refine (execute_insertRedirection (by decide) hplain (.inl rfl) 1 hopen ?_).2.2.2.2.2.1
  intro name path i hname hpath hstart
  obtain rfl : "p".toList = name := Option.some.inj hname
  obtain rfl : textName "/b/p" = path := Command.external.inj (hp.symm.trans hpath)
  have hprogram : printer.start none (Path.explicit (textName "/b/p")) ["p".toList, "x".toList]
      = .ok ⟨textPlace ["b", "p"], [], [textName "p", textName "x"], some [slash]⟩ := by rfl
  obtain rfl := Except.ok.inj (hprogram.symm.trans hstart)
  decide

theorem wellFormed_printer : printer.files.WellFormed :=
  ((FileSystem.wellFormed_empty.insert (by decide) (by decide) (by decide) (by simp)).insert
    (by decide) (by decide) (by decide) (by simp)).insert
      (by decide) (by decide) (by decide) (by simp)

/-- The script of that machine can be redirected to its interpreter, which is not the file that its
name stands for, and then nothing is written there. -/
theorem not_forall_execute_insertRedirection :
    ¬ ∀ (m : Machine) (args : List Text) (k : Nat) (op target : Text) (place : Place)
      (files : FileSystem), m.files.WellFormed → m.files.Stands m.location → args ≠ [] →
      (∀ w ∈ args, ¬ IsOperator w) → IsOperator op →
      m.files.openToWrite m.location (Utf8.encode target) = .ok (.file place, files) →
      (∀ name path, args.head? = some name →
        (Command.ofName m.surroundings name).value = .external path →
        m.files.locate m.location path ≠ .ok (.ofPlace place)) →
      ∃ mode, (execute m (insertRedirection args k op target)).machine.files.node? place
        = some (.file mode (.data (execute m args).transcript.output)) := by
  intro h
  have hs : (Command.ofName printer.surroundings "s".toList).value
      = .external (textName "/b/s") := by decide
  obtain ⟨mode, hmode⟩ := h printer ["s".toList, "x".toList] 2 ">".toList "/b/p".toList
    (textPlace ["b", "p"]) _ wellFormed_printer ⟨0o755, rfl⟩ (by decide) (by decide) (.inl rfl) rfl
    (by
      intro name path hname hpath
      obtain rfl : "s".toList = name := Option.some.inj hname
      obtain rfl : textName "/b/s" = path := Command.external.inj (hs.symm.trans hpath)
      have hfile : printer.files.locate printer.location (textName "/b/s")
          = .ok (.ofPlace (textPlace ["b", "s"])) := rfl
      rw [hfile]
      exact fun h ↦ absurd (Except.ok.inj h) (by decide))
  have hdirect : (execute printer ["s".toList, "x".toList]).transcript.output
      = textName "/b/p /b/s x" := by decide +kernel
  have hredirected : (execute printer (insertRedirection ["s".toList, "x".toList] 2 ">".toList
      "/b/p".toList)).machine.files.node? (textPlace ["b", "p"])
        = some (.file 0o755 (.data [])) := by decide +kernel
  have hne : [] ≠ textName "/b/p /b/s x" := by decide
  rw [hdirect, hredirected] at hmode
  exact hne (Content.data.inj (Node.file.inj (Option.some.inj hmode)).2)

end LineShell.Shell
