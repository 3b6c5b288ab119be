import LineShell.Path

/-!
# Surroundings

What a command can learn from outside of its arguments, and what it may ask for. A command is a
function from surroundings to a *reply*: a value, and the *calls* made for it, in order. Calls are
kept because it matters which were made: a search path is read anew for every name, and a home
directory only when a `~` asks for one.

A command never changes its surroundings by itself. It asks to be moved to a directory, and whoever
runs it carries that out; `canEnter` tells beforehand how it will end.
-/

namespace LineShell

/-- What surrounds a command. -/
structure Surroundings where
  /-- The search path, if one is set. -/
  searchPath : Option Bytes
  /-- The home directory, if there is one. -/
  home : Option Path
  /-- The working directory, if it is known. -/
  workingDir : Option Path
  /-- Whether a path leads to a directory that one can move to. -/
  canEnter : Path → Bool
  /-- Whether a path leads to a file that can be executed. -/
  isExecutable : Path → Bool

/-- A question that is put to the surroundings, or a change that is asked of them. -/
inductive Call where
  /-- For the search path. -/
  | searchPath
  /-- For the home directory. -/
  | home
  /-- For the working directory. -/
  | workingDir
  /-- To be moved to a directory. -/
  | move (target : Path)
  deriving DecidableEq, Repr

/-- A value and the calls that were made for it. -/
structure Reply (α : Type) where
  /-- The value. -/
  value : α
  /-- The calls, the earliest first. -/
  calls : List Call
  deriving DecidableEq, Repr

/-- The directories that a list of calls asks to be moved to. -/
def movesOf (calls : List Call) : List Path :=
  calls.filterMap fun
    | .move target => some target
    | _ => none

end LineShell
