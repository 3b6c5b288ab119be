import LineShell.Command
import LineShell.Fault
import LineShell.Process
import LineShell.Text.Quoted

/-!
# Events

What the shell reports about its own doing, to whoever has asked for a log. Whether an event is
written can depend on its level, on its *target*, which is the part of the program that reports it,
and on the names of its particulars. If it is written, it is one line of the log.
-/

namespace LineShell

/-! ## Levels -/

/-- How important an event is, from the most important on. -/
inductive Level where
  /-- A failure. -/
  | error
  /-- Something to look at. -/
  | warn
  /-- Something to know. -/
  | info
  /-- A step of the program. -/
  | debug
  /-- Every detail. -/
  | trace
  deriving DecidableEq, Repr

namespace Level

/-- The rank of a level: the greater, the less important. -/
def rank : Level → Nat
  | .error => 1
  | .warn => 2
  | .info => 3
  | .debug => 4
  | .trace => 5

/-- The name of a level, as wide as the widest. -/
def label : Level → Text
  | .error => "ERROR".toList
  | .warn => " WARN".toList
  | .info => " INFO".toList
  | .debug => "DEBUG".toList
  | .trace => "TRACE".toList

end Level

/-! ## Events -/

/-- What happens. -/
inductive Event where
  /-- Lines are about to be read. -/
  | starting (interactive : Bool)
  /-- Standard output is about to be redirected. -/
  | redirecting (target : Text)
  /-- A command is about to be run. -/
  | dispatching (name : Text) (command : Command)
  /-- A program has ended. -/
  | finished (program : Path) (status : ExitStatus)
  /-- A program could not be run. -/
  | failedToRun (program : Path) (cause : Fault)
  deriving DecidableEq, Repr

/-- The name of a builtin as an event shows it. -/
def Builtin.label : Builtin → Text
  | .echo => "Echo".toList
  | .exit => "Exit".toList
  | .type => "Type".toList
  | .pwd => "Pwd".toList
  | .cd => "Cd".toList

/-- What a name stands for as an event shows it. -/
def Command.label : Command → Text
  | .builtin b => "Builtin(".toList ++ b.label ++ [')']
  | .external p => "External(".toList ++ Quoted.quote p ++ [')']
  | .notFound => "NotFound".toList

/-- How a program ended, in words. -/
def ExitStatus.message : ExitStatus → Text
  | .exited code => "exit status: ".toList ++ Decimal.ofNat code
  | .killed => "signal: 9 (SIGKILL)".toList

namespace Event

/-- The level of an event. -/
def level : Event → Level
  | .dispatching .. => .trace
  | _ => .debug

/-- The part of the program that reports an event. -/
def target : Event → Text
  | .starting _ => "minish".toList
  | .redirecting _ => "minish::redirection".toList
  | _ => "minish::shell".toList

/-- The names of what an event carries: its words, which are its `message`, and its particulars. -/
def fields : Event → List Text
  | .starting _ => ["message".toList, "interactive".toList]
  | .redirecting _ => ["message".toList, "target_file".toList]
  | .dispatching .. => ["message".toList, "command".toList, "resolved".toList]
  | .finished .. => ["message".toList, "program".toList, "status".toList]
  | .failedToRun .. => ["message".toList, "program".toList, "error".toList]

/-- An event in words, with its particulars. -/
def message : Event → Text
  | .starting interactive =>
    "starting read loop interactive=".toList
      ++ if interactive then "true".toList else "false".toList
  | .redirecting target => "redirecting stdout target_file=".toList ++ target
  | .dispatching name command =>
    "dispatching command=".toList ++ name ++ " resolved=".toList ++ command.label
  | .finished program status =>
    "external command finished program=".toList ++ Utf8.decodeLossy program
      ++ " status=".toList ++ status.message
  | .failedToRun program cause =>
    "external command failed to run program=".toList ++ Utf8.decodeLossy program
      ++ " error=".toList ++ cause.message

/-- The line of a log for an event, without the time. -/
def line (e : Event) : Text :=
  e.level.label ++ [' '] ++ e.target ++ ": ".toList ++ e.message ++ ['\n']

end Event

end LineShell
