import LineShell.FileSystem
import LineShell.Process.Script

/-!
# Processes

A program is started with arguments and a working directory, and runs to its end before anything
else happens. If it is started to interpret a script, what it does can depend on the script too. All
that is seen of it is its *report*: what it wrote to its two outputs and how it ended. What programs
do is therefore a function, the machine's *behaviour*, and a program changes no files and no
directory but through what the shell does with its report.
-/

namespace LineShell

/-- A script that is interpreted. -/
structure Script where
  /-- Where its file is. -/
  place : Place
  /-- What the file holds. -/
  text : Bytes
  deriving DecidableEq, Repr

/-- What a program is started with. -/
structure Invocation where
  /-- Where the file of the program is. -/
  program : Place
  /-- The scripts that led to the program, the one that was called last. -/
  scripts : List Script
  /-- Its arguments, of which the first is the name that it was called by. -/
  arguments : List Bytes
  /-- The directory that it starts in, if that is still there. -/
  workingDir : Option Path
  deriving DecidableEq, Repr

/-- The places of the files that were opened to start a program: its own and those of the scripts
that led to it. -/
def Invocation.files (i : Invocation) : List Place := i.program :: i.scripts.map Script.place

/-- How a program ended. -/
inductive ExitStatus where
  /-- It ended by itself with a status. -/
  | exited (code : Nat)
  /-- It was killed. -/
  | killed
  deriving DecidableEq, Repr

/-- All that is seen of a program that has run. -/
structure Report where
  /-- What it wrote to standard output. -/
  out : Bytes
  /-- What it wrote to standard error. -/
  err : Bytes
  /-- How it ended. -/
  status : ExitStatus
  deriving DecidableEq, Repr

/-- What the programs of a machine do. -/
abbrev Behaviour := Invocation → Report

end LineShell
