import LineShell.LineSource.Plain
import LineShell.Live

/-!
# The program

A whole run of the shell: the start, the session and the exit status. An error that ends the session
is written to standard error and gives status 1; a code that a line asked for gives its last eight
bits. Lines come from any source (`runOn`); where nobody types them they are plain lines (`run`).

A variable tells what is to be logged. What it asks for is left to a reader of filters, and the
filter is there from the start of the run to its end.
-/

namespace LineShell

/-- What is seen of a whole run. -/
structure Run where
  /-- The exit status. -/
  status : Nat
  /-- The world afterwards. -/
  world : World

namespace Run

/-- The machine afterwards. -/
def machine (r : Run) : Machine := r.world.machine

/-- What was written to standard output. -/
def stdout (r : Run) : Bytes := r.world.stdout

/-- What was written to standard error, in pieces. -/
def errorPieces (r : Run) : List ErrorPiece := r.world.stderr

/-- What was written to standard error. -/
def stderr (r : Run) : Bytes := r.errorPieces.flatMap ErrorPiece.bytes

end Run

namespace Program

/-- The exit status for the end of a session. A list that has no such member would be a defect of
the shell itself, with a status of its own. -/
def exitStatus : Except Halt Int → Nat
  | .ok code => (code % 256).toNat
  | .error (.error _) => 1
  | .error .outOfRange => 101

/-- Writes the error that has ended a session, if one has. -/
def bidFarewell : Except Halt Int → Act Unit
  | .error (.error e) => Act.complain (Utf8.encode (e.message ++ ['\n']))
  | _ => return

/-- The start for a value of the variable for the log; a value that is not UTF-8 counts as none. -/
def startup (log : Option Bytes) (interactive : Bool) : Startup :=
  Startup.ofVariables (fun v ↦ if v = Startup.logVariable then log.bind Utf8.decode? else none)
    interactive

/-- Runs the shell on a source of lines. -/
def runOn {σ : Type} [LineSource σ] (filters : FilterReader) (m : Machine) (log : Option Bytes)
    (interactive : Bool) (source : σ) : Run :=
  let s := startup log interactive
  let ended := (Live.start s source).run (s.filter filters) ⟨m, [], []⟩
  { status := exitStatus ended.1
    world := ((bidFarewell ended.1).run (s.filter filters) ended.2).2 }

/-- Runs the shell on an input that nobody types. -/
def run (filters : FilterReader) (m : Machine) (log : Option Bytes) (input : Bytes) : Run :=
  runOn filters m log false (PlainLines.ofBytes input)

end Program

end LineShell
