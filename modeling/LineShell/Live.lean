import LineShell.Session
import LineShell.Startup
import LineShell.World

/-!
# The live shell

The shell as it runs: it changes the machine, writes its output and reports its events at the moment
at which each of these happens. Nothing is collected on the way. The lines of the log are written
while all the rest goes on, and to the same standard error.

Outcomes and transcripts tell of the same shell from the end of a run, where everything that came
out is one list and a log is a way to look at it. The functions here have the names of those that
give the outcomes, and do step by step what these tell.
-/

namespace LineShell.Live

/-! ## Output -/

/-- Writes the output of a builtin. -/
def deliver (sink : Sink) (output : Text) : Act Flow := do
  let m ← Act.machine
  match sink.write m.files (Utf8.encode output) with
  | .ok (files, shown) =>
    Act.setMachine { m with files }
    Act.print shown
    return .proceed
  | .error cause => throw (.error (.io cause))

/-- Carries out the calls of a builtin and then writes its output. -/
def answer (sink : Sink) (reply : Surroundings → Reply Text) : Act Flow := do
  let m ← Act.machine
  Act.setMachine (m.performAll (reply m.surroundings).calls)
  deliver sink (reply m.surroundings).value

/-- Lets a program's output out. What does not fit is the program's loss. -/
def pour (sink : Sink) (bytes : Bytes) : Act Unit := do
  let m ← Act.machine
  match sink.write m.files bytes with
  | .ok (files, shown) =>
    Act.setMachine { m with files }
    Act.print shown
  | .error _ => return

/-! ## Commands -/

/-- Runs a program that was found at a path, and reports how that went. -/
def runProgram (sink : Sink) (path : Path) (args : List Text) : Act Flow := do
  let m ← Act.machine
  match m.launch sink.place? path.explicit args with
  | .error cause =>
    Act.report (.failedToRun path cause)
    return .proceed
  | .ok report =>
    pour sink report.out
    Act.complain report.err
    Act.report (.finished path.explicit report.status)
    return .proceed

/-- Runs a builtin with its arguments. -/
def runBuiltin (sink : Sink) (args : List Text) : Builtin → Act Flow
  | .exit => return .exit (Builtin.exitCode args)
  | .echo =>
    match Builtin.runEcho? args with
    | none => throw .outOfRange
    | some output => deliver sink output
  | .type => answer sink (Builtin.runType · args)
  | .pwd => answer sink Builtin.runPwd
  | .cd => answer sink (Builtin.runCd · args)

/-- Reports what the first argument names, and runs it. -/
def dispatch (sink : Sink) (args : List Text) : Act Flow := do
  match args[0]? with
  | none => throw .outOfRange
  | some name =>
    let m ← Act.machine
    let command := (Command.ofName m.surroundings name).value
    Act.report (.dispatching name command)
    match command with
    | .builtin b => runBuiltin sink args b
    | .external path => runProgram sink path args
    | .notFound => deliver sink (Shell.notFoundText name)

/-! ## Lines -/

/-- Runs the words of a line. A redirection is reported before its target is opened. -/
def execute (words : List Text) : Act Flow := do
  if words = [] then return .proceed
  else
    match splitRedirection words with
    | .error halt => throw halt
    | .ok (args, target) =>
      target.forM fun t ↦ Act.report (.redirecting t)
      let m ← Act.machine
      match openSink m.files m.location target with
      | .error e => throw (.error e)
      | .ok (sink, files) =>
        Act.setMachine { m with files }
        if args = [] then return .proceed else dispatch sink args

/-- Runs a line. -/
def runLine (line : Text) : Act Flow := execute (tokenize line)

/-! ## Sessions -/

variable {σ : Type} [LineSource σ]

/-- Reads lines and runs them, until one of them ends the session or there is no further line. -/
def session (prompt : Text) (source : σ) : Act Int := do
  let reading := LineSource.readLine prompt source
  Act.print reading.prompted
  match _ : reading.result with
  | .error e => throw (.error e)
  | .ok line =>
    match ← (runLine line).attempt with
    | .ok .proceed => session prompt reading.source
    | .ok (.exit code) => return code
    | .error (.error e) =>
      if e.IsFatal then throw (.error e)
      else
        Act.complain (Utf8.encode (e.message ++ ['\n']))
        session prompt reading.source
    | .error .outOfRange => throw .outOfRange
termination_by LineSource.size source
decreasing_by all_goals exact LineSource.size_lt ‹_›

/-- Reads and runs lines with what was settled at the start. -/
def start (s : Startup) (source : σ) : Act Int := do
  Act.report (.starting s.interactive)
  session s.prompt source

end LineShell.Live
