import LineShell.Machine
import LineShell.Redirection
import LineShell.Transcript

/-!
# The shell

One line is run on a machine: its words are found, its redirection is taken out and opened, and
the command that remains is dispatched to a builtin or to a program. The result is an *outcome*: how
it ended, the machine afterwards, and everything that came out on the way.

The machine and the transcript are there however it ended, because an error does not undo what came
before it: a redirection target that was opened stays, also when nothing could be written to it.

A program that cannot be started, or that fails in any way, is a command that did nothing; only an
event tells of it. What does fail is writing the output of a builtin.
-/

namespace LineShell

/-- What to do after a line. -/
inductive Flow where
  /-- Read the next line. -/
  | proceed
  /-- End with a code. -/
  | exit (code : Int)
  deriving DecidableEq, Repr

/-- How a run ended, and what it left. -/
structure Outcome (α : Type) where
  /-- The value of the run, or why it has none. -/
  result : Except Halt α
  /-- The machine after the run. -/
  machine : Machine
  /-- What came out of the run. -/
  transcript : Transcript

/-- An outcome after something has come out already. -/
def Outcome.after {α : Type} (before : Transcript) (o : Outcome α) : Outcome α :=
  { o with transcript := before ++ o.transcript }

namespace Shell

/-! ## Output -/

/-- Writes the output of a builtin. -/
def deliver (m : Machine) (sink : Sink) (output : Text) : Outcome Flow :=
  match sink.write m.files (Utf8.encode output) with
  | .ok (files, shown) => ⟨.ok .proceed, { m with files }, [.out shown]⟩
  | .error cause => ⟨.error (.error (.io cause)), m, []⟩

/-- Carries out the calls of a builtin and then writes its output. -/
def answer (m : Machine) (sink : Sink) (reply : Reply Text) : Outcome Flow :=
  deliver (m.performAll reply.calls) sink reply.value

/-- Lets a program's output out. What does not fit is the program's loss. -/
def pour (m : Machine) (sink : Sink) (bytes : Bytes) : Machine × Transcript :=
  match sink.write m.files bytes with
  | .ok (files, shown) => ({ m with files }, [.out shown])
  | .error _ => (m, [])

/-! ## Commands -/

/-- Runs a program that was found at a path. It is started by a path that is not bare, so that it
is not looked for again. -/
def runProgram (m : Machine) (sink : Sink) (path : Path) (args : List Text) : Outcome Flow :=
  match m.launch sink.place? path.explicit args with
  | .error cause => ⟨.ok .proceed, m, [.event (.failedToRun path cause)]⟩
  | .ok report =>
    let poured := pour m sink report.out
    ⟨.ok .proceed, poured.1,
      poured.2 ++ [.err report.err, .event (.finished path.explicit report.status)]⟩

/-- Runs a builtin with its arguments. -/
def runBuiltin (m : Machine) (sink : Sink) (args : List Text) : Builtin → Outcome Flow
  | .exit => ⟨.ok (.exit (Builtin.exitCode args)), m, []⟩
  | .echo =>
    match Builtin.runEcho? args with
    | none => ⟨.error .outOfRange, m, []⟩
    | some output => deliver m sink output
  | .type => answer m sink (Builtin.runType m.surroundings args)
  | .pwd => answer m sink (Builtin.runPwd m.surroundings)
  | .cd => answer m sink (Builtin.runCd m.surroundings args)

/-- What is written for a name that stands for nothing. -/
def notFoundText (name : Text) : Text := name ++ ": command not found\n".toList

/-- Runs the command that the first argument names. -/
def dispatch (m : Machine) (sink : Sink) (args : List Text) : Outcome Flow :=
  match args[0]? with
  | none => ⟨.error .outOfRange, m, []⟩
  | some name =>
    let command := (Command.ofName m.surroundings name).value
    Outcome.after [.event (.dispatching name command)] <|
      match command with
      | .builtin b => runBuiltin m sink args b
      | .external path => runProgram m sink path args
      | .notFound => deliver m sink (notFoundText name)

/-! ## Lines -/

/-- Runs the words of a line. -/
def execute (m : Machine) (words : List Text) : Outcome Flow :=
  if words = [] then ⟨.ok .proceed, m, []⟩
  else match splitRedirection words with
    | .error halt => ⟨.error halt, m, []⟩
    | .ok (args, target) =>
      Outcome.after (target.toList.map fun t ↦ .event (.redirecting t)) <|
        match openSink m.files m.location target with
        | .error e => ⟨.error (.error e), m, []⟩
        | .ok (sink, files) =>
          if args = [] then ⟨.ok .proceed, { m with files }, []⟩
          else dispatch { m with files } sink args

/-- Runs a line. -/
def runLine (m : Machine) (line : Text) : Outcome Flow := execute m (tokenize line)

/-! ## Laws -/

@[simp] theorem execute_nil (m : Machine) : execute m [] = ⟨.ok .proceed, m, []⟩ := rfl

theorem execute_of_openSink_error {m : Machine} {words args : List Text} {target : Option Text}
    {e : ShellError} (hsplit : splitRedirection words = .ok (args, target))
    (hopen : openSink m.files m.location target = .error e) (hne : words ≠ []) :
    execute m words
      = ⟨.error (.error e), m, target.toList.map fun t ↦ .event (.redirecting t)⟩ := by
  simp [execute, hne, hsplit, hopen, Outcome.after]

end Shell

end LineShell
