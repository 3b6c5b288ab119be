import LineShell.Proofs.Command.Lookup
import LineShell.Proofs.Session.WholeRun
import LineShell.Proofs.Shell.Effects

/-!
# What no session changes

Whatever lines a shell runs, and however many, its files only grow: each line is one step of growth,
and steps of growth are one step again (`grows_runLines`). Growth shows no new executable file and
hides none, so what absolute paths lead to is settled when the first line is read. If the search
path has absolute directories only, then so are the commands (`ofName_runLines`).

A path that is not absolute does lead elsewhere after a `cd`, and a search path with such a
directory, or with an empty one, finds other commands then.

## Sessions

A session adds nothing to that. It runs lines and does nothing else to the machine, wherever the
lines come from (`exists_machine_run_eq`).
-/

namespace LineShell

namespace Shell

variable {m : Machine} {lines : List Text}

/-- The machine after some lines, run one after the other. -/
def runLines (m : Machine) (lines : List Text) : Machine :=
  lines.foldl (fun m line ↦ (runLine m line).machine) m

theorem runLines_cons (m : Machine) (line : Text) (lines : List Text) :
    runLines m (line :: lines) = runLines (runLine m line).machine lines := rfl

/-! ## Along a run -/

/-- A run lets the files grow and the shell move, and changes nothing else. -/
theorem runLines_eq (m : Machine) (lines : List Text) :
    runLines m lines
      = { m with files := (runLines m lines).files, location := (runLines m lines).location } := by
  induction lines generalizing m with
  | nil => rfl
  | cons line lines ih =>
    rw [runLines_cons, ih, runLine, execute_machine_eq]

theorem grows_runLines (m : Machine) (lines : List Text) :
    m.files.Grows (runLines m lines).files := by
  induction lines generalizing m with
  | nil => exact FileSystem.Grows.refl m.files
  | cons line lines ih =>
    rw [runLines_cons]
    exact (grows_execute m (tokenize line)).trans (ih (runLine m line).machine)

theorem isExecutable_runLines {p : Path} (hp : p.IsAbsolute) :
    (runLines m lines).isExecutable p = m.isExecutable p := by
  calc (runLines m lines).files.isExecutable (runLines m lines).location p
      = (runLines m lines).files.isExecutable m.location p :=
        FileSystem.isExecutable_of_isAbsolute hp _ _
    _ = m.files.isExecutable m.location p := (grows_runLines m lines).isExecutable_eq m.location p

theorem ofName_runLines {searchPath : Bytes} (h : m.searchPath = some searchPath)
    (hdirs : ∀ dir ∈ Path.directories searchPath, dir.IsAbsolute) (name : Text) :
    Command.ofName (runLines m lines).surroundings name = Command.ofName m.surroundings name := by
  have hpath : (runLines m lines).searchPath = some searchPath := by rw [runLines_eq, h]
  exact Command.ofName_eq_of_forall_isAbsolute h hpath hdirs
    (fun p hp ↦ isExecutable_runLines hp) name

/-- **No line adds, hides or replaces a command.** After any lines, all that was there is there, of
the same kind and mode and with the same target, and all that is new is a regular file of mode 644;
the next line changes at most the file that its redirection leads to, up to its content or from
nothing. Hence absolute paths are executable or not for good, and with a search path of absolute
directories every name stands for what it stood for at the start.

The umask is 0, and modes are permission bits only. Of the set-id bits, which a file loses when it is
written to, nothing is said; they have no part in what is executable. Whether a path can be walked to
its end is settled by the modes of directories, and these do not change either. -/
theorem runLines_stable (m : Machine) (lines : List Text) :
    let m' := runLines m lines
    m.files.Grows m'.files ∧
      (∀ line, (runLine m' line).machine.files = m'.files ∨
        ∃ args target place, RedirectsTo (tokenize line) args target ∧
          m'.files.Rewrites m'.location (Utf8.encode target) place
            (runLine m' line).machine.files) ∧
      (∀ p : Path, p.IsAbsolute → m'.isExecutable p = m.isExecutable p) ∧
      ∀ searchPath, m.searchPath = some searchPath →
        (∀ dir ∈ Path.directories searchPath, dir.IsAbsolute) →
        ∀ name, Command.ofName m'.surroundings name = Command.ofName m.surroundings name := by
  intro m'
  refine ⟨grows_runLines m lines, ?_, ?_, ?_⟩
  · intro line
    exact files_execute m' (tokenize line)
  · intro p hp
    exact isExecutable_runLines hp
  · intro searchPath h hdirs name
    exact ofName_runLines h hdirs name

end Shell

namespace Session

variable {σ : Type} [LineSource σ]

/-- A session leaves the machine as some lines leave it, run one after the other. -/
theorem exists_machine_run_eq (prompt : Text) (source : σ) (m : Machine) :
    ∃ lines, (run prompt source m).machine = Shell.runLines m lines := by
  induction source using source_induction (σ := σ) prompt generalizing m with
  | stops source prompted e rest hread =>
    rw [run_of_error hread]
    exact ⟨[], rfl⟩
  | reads source prompted line rest hread ih =>
    rw [run_of_line hread]
    rcases hverdict : verdict (Shell.runLine m line).result with result | complaint
    · refine ⟨[line], ?_⟩
      rw [runBehind, hverdict]
      rfl
    · obtain ⟨lines, hlines⟩ := ih (Shell.runLine m line).machine
      refine ⟨line :: lines, ?_⟩
      rw [runBehind, hverdict]
      exact hlines

/-- The files of a session only grow. -/
theorem grows_run (prompt : Text) (source : σ) (m : Machine) :
    m.files.Grows (run prompt source m).machine.files := by
  obtain ⟨lines, hlines⟩ := exists_machine_run_eq prompt source m
  rw [hlines]
  exact Shell.grows_runLines m lines

end Session

end LineShell
