import LineShell.LineSource
import LineShell.Shell

/-!
# Sessions

A session reads lines from a source and runs them, one after the other, until one of them ends it or
there is no further line. Errors of a line are written to standard error and the session goes on;
only an error of reading ends it.

The recursion is on the source, which every line makes smaller, so a session ends whatever its lines
do.
-/

namespace LineShell

/-- How a session ended, and what it left. -/
structure Ended (σ : Type) extends Outcome Int where
  /-- What was not read. -/
  source : σ

/-- A session after something has come out already. -/
def Ended.after {σ : Type} (before : Transcript) (e : Ended σ) : Ended σ :=
  { e with transcript := before ++ e.transcript }

namespace Session

/-- What is written for an error of a line. -/
def complaint (e : ShellError) : Transcript := [.err (Utf8.encode (e.message ++ ['\n']))]

/-- What becomes of a session after a line: its end, or what comes out before the next line. -/
def verdict (result : Except Halt Flow) : Except (Except Halt Int) Transcript :=
  match result with
  | .ok .proceed => .ok []
  | .ok (.exit code) => .error (.ok code)
  | .error (.error e) => if e.IsFatal then .error (.error (.error e)) else .ok (complaint e)
  | .error .outOfRange => .error (.error .outOfRange)

variable {σ : Type} [LineSource σ]

/-- Runs the lines of a source on a machine. -/
def run (prompt : Text) (source : σ) (m : Machine) : Ended σ :=
  let reading := LineSource.readLine prompt source
  Ended.after [.prompt reading.prompted] <|
    match _ : reading.result with
    | .error e => ⟨⟨.error (.error e), m, []⟩, reading.source⟩
    | .ok line =>
      let o := Shell.runLine m line
      Ended.after o.transcript <|
        match verdict o.result with
        | .error result => ⟨⟨result, o.machine, []⟩, reading.source⟩
        | .ok complaint => (run prompt reading.source o.machine).after complaint
termination_by LineSource.size source
decreasing_by exact LineSource.size_lt ‹_›

end Session

end LineShell
