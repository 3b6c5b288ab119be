import LineShell.Text.Decimal

/-!
# Builtin commands

The commands that the shell knows by itself, with what the two of them do that need nothing but
their arguments. The arguments of a command begin with its own name.
-/

namespace LineShell

/-- A command that the shell knows by itself. -/
inductive Builtin where
  /-- Writes its arguments. -/
  | echo
  /-- Ends the shell. -/
  | exit
  /-- Tells what a name stands for. -/
  | type
  /-- Writes the working directory. -/
  | pwd
  /-- Changes the working directory. -/
  | cd
  deriving DecidableEq, Repr

namespace Builtin

/-- All builtins, in the order in which they are listed. -/
def all : List Builtin := [.echo, .exit, .type, .pwd, .cd]

/-- The name of a builtin. -/
def name : Builtin → Text
  | .echo => "echo".toList
  | .exit => "exit".toList
  | .type => "type".toList
  | .pwd => "pwd".toList
  | .cd => "cd".toList

/-- The builtin of a name. -/
def ofName? (n : Text) : Option Builtin := all.find? fun b ↦ b.name = n

theorem mem_all (b : Builtin) : b ∈ all := by cases b <;> decide

theorem ofName?_eq_some_iff {n : Text} {b : Builtin} : ofName? n = some b ↔ b.name = n := by
  constructor
  · intro h
    simpa using List.find?_some h
  · rintro rfl
    cases b <;> rfl

/-! ## What needs no surroundings -/

/-- What `echo` writes: its arguments on one line. There is nothing to write without a name to be
called by. -/
def runEcho? : List Text → Option Text
  | [] => none
  | _ :: args => some (unwords args ++ ['\n'])

/-- The code that `exit` asks for. An argument that is no number of 32 bits counts as 0, as does a
missing one. -/
def exitCode (args : List Text) : Int := ((args[1]?).bind Decimal.int32?).getD 0

end Builtin

end LineShell
