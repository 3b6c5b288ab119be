import LineShell.FileSystem.Walk
import LineShell.Process
import LineShell.Surroundings
import LineShell.Text.Utf8

/-!
# The machine

Everything outside of the shell that it can see or change: files, the directory that it stands in,
two variables, and the programs. A machine answers the questions of a command (`surroundings`),
carries out its calls (`perform`), and starts programs (`launch`).

A program is started by a path. A path without a slash is not looked up where one stands but in the
directories of the search path, which is why the shell never starts a program by a bare name. The
file that the path leads to must be a regular file that its owner may run and that nobody writes to.
The search is less strict: it takes any file with an execute bit, whomever that bit is for.

## Scripts

The content of the file must be a program, or a script. The interpreter that a script names is
opened in its stead, by a path that is looked up where the shell stands, and must be a file of the
same kind. It can be a script itself, whose interpreter is opened next; a few scripts may follow one
another in this way (`scriptLimit`). One step from a script to its interpreter is `interpret`, and
`load` takes these steps until there is a program.
-/

namespace LineShell

/-- A machine. -/
structure Machine where
  /-- Its files. -/
  files : FileSystem
  /-- Where the shell stands. -/
  location : Location
  /-- The variable that holds the search path. -/
  searchPath : Option Bytes
  /-- The variable that holds the home directory. -/
  home : Option Bytes
  /-- What its programs do. -/
  behaviour : Behaviour

namespace Machine

/-! ## Commands on a machine -/

/-- Whether a path leads to an executable file from where the shell stands. -/
def isExecutable (m : Machine) (p : Path) : Bool := m.files.isExecutable m.location p

/-- What a command on this machine is surrounded by. A home directory that is set to nothing is
none. -/
def surroundings (m : Machine) : Surroundings where
  searchPath := m.searchPath
  home := m.home.filter (· ≠ [])
  workingDir := m.location.path?
  canEnter p := (m.files.enter m.location p).toBool
  isExecutable := m.isExecutable

/-- The machine after a call. -/
def perform (m : Machine) : Call → Machine
  | .move target =>
    match m.files.enter m.location target with
    | .ok l => { m with location := l }
    | .error _ => m
  | _ => m

/-- The machine after some calls. -/
def performAll (m : Machine) (calls : List Call) : Machine := calls.foldl perform m

@[simp] theorem performAll_nil (m : Machine) : m.performAll [] = m := rfl

@[simp] theorem files_perform (m : Machine) (c : Call) : (m.perform c).files = m.files := by
  cases c <;> simp only [perform]
  split <;> rfl

@[simp] theorem files_performAll (m : Machine) (calls : List Call) :
    (m.performAll calls).files = m.files := by
  induction calls generalizing m with
  | nil => rfl
  | cons c calls ih => rw [performAll, List.foldl_cons, ← performAll, ih, files_perform]

/-! ## Starting programs -/

/-- The path by which a program is opened, if there is one. A bare path is looked up in the search
path. -/
def programPath? (m : Machine) (p : Path) : Option Path :=
  if p.IsBare then
    ((Path.directories (m.searchPath.getD [])).map (Path.join · p)).find? m.isExecutable
  else some p

/-- The number of bytes that an argument of a program stays below, and a variable with its name. -/
def argumentLimit : Nat := 131072

/-- The greatest number of bytes that a program is handed over in all. -/
def handoverLimit : Nat := 2097152

/-- The numbers of bytes of what a program is handed over: its arguments, and the variables, each
with its name and an equals sign. -/
def handover (m : Machine) (args : List Bytes) : List Nat :=
  args.map List.length ++ (m.searchPath.toList ++ m.home.toList).map fun value ↦ 5 + value.length

/-- Whether a program can be handed over its arguments and the variables. Each takes a byte more for
its end, and eight where it is listed. -/
def CanHandOver (m : Machine) (args : List Bytes) : Prop :=
  (∀ n ∈ m.handover args, n < argumentLimit) ∧
    (m.handover args).foldl (fun total n ↦ total + n + 9) 0 ≤ handoverLimit

instance (m : Machine) (args : List Bytes) : Decidable (m.CanHandOver args) :=
  inferInstanceAs (Decidable (_ ∧ _))

/-- A file that has been opened to be run, and what it is called with. -/
structure Loading where
  /-- The path by which it was opened. -/
  path : Path
  /-- Where it is. -/
  place : Place
  /-- What it holds. -/
  content : Content
  /-- What it is called with. -/
  arguments : List Bytes
  /-- The scripts that led to it, the one that was called last. -/
  scripts : List Script

/-- Opens a file to run it: it must be a regular one that its owner may run, and not be the one that
is open for writing. -/
def openToRun (m : Machine) (busy : Option Place) (l : Location) :
    Except Fault (Place × Content) :=
  match m.files.nodeAt? l with
  | some (.file mode content) =>
    if ¬ mode.AllowsRunning then .error (.system .denied)
    else if busy = some l.place then .error (.system .fileBusy)
    else .ok (l.place, content)
  | _ => .error (.system .denied)

/-- Opens the interpreter of a text that is to be run. -/
def interpret (m : Machine) (busy : Option Place) (file : Loading) (text : Bytes) :
    Except Fault Loading :=
  match Script.interpreter? text with
  | none => .error (.system .notRunnable)
  | some interpreter =>
    let args := interpreter.arguments file.path file.arguments
    if ¬ m.CanHandOver args then .error (.system .tooManyArguments)
    else match m.files.locate m.location interpreter.path with
      | .error cause => .error cause
      | .ok l =>
        match m.openToRun busy l with
        | .error cause => .error cause
        | .ok (place, content) =>
          .ok ⟨interpreter.path, place, content, args, ⟨file.place, text⟩ :: file.scripts⟩

/-- The greatest number of scripts that lead to a program one after another. -/
def scriptLimit : Nat := 5

/-- Follows the interpreters of scripts from a file to a program. -/
def load (m : Machine) (busy : Option Place) : Nat → Loading → Except Fault Invocation
  | left, file =>
    match file.content with
    | .program => .ok ⟨file.place, file.scripts, file.arguments, m.location.path?⟩
    | .data text =>
      match m.interpret busy file text with
      | .error cause => .error cause
      | .ok next =>
        match left with
        | 0 => .error (.system .tooManyLinks)
        | left + 1 => load m busy left next

/-- Creates a process: opens a program to start it with its arguments. `busy` is the file that is
open for writing, if one is. -/
def start (m : Machine) (busy : Option Place) (program : Path) (args : List Text) :
    Except Fault Invocation :=
  if args.any fun arg ↦ Char.ofNat 0 ∈ arg then .error .nulInArgument
  else match m.programPath? program with
    | none => .error (.system .noEntry)
    | some path =>
      match m.files.locate m.location path with
      | .error cause => .error cause
      | .ok l =>
        match m.openToRun busy l with
        | .error cause => .error cause
        | .ok (place, content) =>
          let args := args.map Utf8.encode
          if ¬ m.CanHandOver args then .error (.system .tooManyArguments)
          else m.load busy scriptLimit ⟨path, place, content, args, []⟩

/-- Starts a program with its arguments and waits for its report. -/
def launch (m : Machine) (busy : Option Place) (program : Path) (args : List Text) :
    Except Fault Report :=
  (m.start busy program args).map m.behaviour

end Machine

end LineShell
