import LineShell.Process
import LineShell.Text.Decimal
import LineShell.Text.Utf8

/-!
# The probe

A program for seeing how programs are called. It writes each of its arguments on a line of its own,
and the arguments behind the first can ask for more: a line on standard error, an exit status, the
directory that it runs in, or that it be killed in the end.
-/

namespace LineShell.Probe

/-- What an argument may ask for. -/
inductive Request where
  /-- A line on standard error. -/
  | complain (line : Bytes)
  /-- An exit status. -/
  | status (code : Nat)
  /-- The working directory on standard output. -/
  | workingDir
  /-- To be killed. -/
  | kill
  deriving DecidableEq, Repr

/-- What follows a beginning, if the bytes begin so. -/
def after? (start : String) (bytes : Bytes) : Option Bytes :=
  let begin := Utf8.encode start.toList
  if begin <+: bytes then some (bytes.drop begin.length) else none

/-- What an argument asks for. -/
def request? (arg : Bytes) : Option Request :=
  match after? "--err=" arg, after? "--exit=" arg with
  | some line, _ => some (.complain line)
  | none, some code =>
    ((Utf8.decode? code).bind Decimal.integer?).map fun v ↦ .status (v % 256).toNat
  | none, none =>
    if arg = Utf8.encode "--pwd".toList then some .workingDir
    else if arg = Utf8.encode "--kill".toList then some .kill
    else none

/-- One line for each argument. -/
def listing (args : List Bytes) : Bytes :=
  args.flatMap fun arg ↦ Utf8.encode ['<'] ++ arg ++ Utf8.encode ['>', '\n']

/-- What a request adds to standard output. -/
def answer (workingDir : Option Path) : Request → Bytes
  | .workingDir => Utf8.encode "cwd=".toList ++ workingDir.getD (Utf8.encode ['?']) ++ [newline]
  | _ => []

/-- What a request adds to standard error. -/
def complaint : Request → Bytes
  | .complain line => line ++ [newline]
  | _ => []

/-- The exit status asked for last. -/
def exitCode (requests : List Request) : Nat :=
  requests.foldl (fun code r ↦ match r with
    | .status code => code
    | _ => code) 0

/-- What the probe does. -/
def run : Behaviour := fun i ↦
  let requests := i.arguments.tail.filterMap request?
  { out := listing i.arguments ++ requests.flatMap (answer i.workingDir)
    err := requests.flatMap complaint
    status := if .kill ∈ requests then .killed else .exited (exitCode requests) }

end LineShell.Probe
