import LineShell.Event.Filter
import LineShell.Text.Blank

/-!
# Starting up

What is settled once, before the first line is read: the prompt, the filter for the log, and whether
somebody sits at the other end. One variable is looked up for it, and a blank value of it counts as
none.
-/

namespace LineShell

/-- What a session is started with. -/
structure Startup where
  /-- What is written before each line is read. -/
  prompt : Text
  /-- The text of the filter for the log. -/
  logFilter : Option Text
  /-- Whether lines are typed by somebody. -/
  interactive : Bool
  deriving DecidableEq, Repr

namespace Startup

/-- The prompt. -/
def defaultPrompt : Text := "$ ".toList

/-- The variable that holds the filter for the log. -/
def logVariable : Text := "MINISH_LOG".toList

/-- The variables that are looked up, in order. -/
def variablesRead : List Text := [logVariable]

/-- The start of a session, from the values of variables. -/
def ofVariables (value : Text → Option Text) (interactive : Bool) : Startup where
  prompt := defaultPrompt
  logFilter := (value logVariable).filter fun f ↦ ¬ isBlank f
  interactive := interactive

/-- The filter for the log. Without a text, or with one that is no filter, none is asked for. -/
def filter (filters : FilterReader) (s : Startup) : Filter :=
  (s.logFilter.bind filters.read?).getD (filters.readLossy FilterReader.offText)

end Startup

end LineShell
