import LineShell.Fault

/-!
# Errors of the shell

What can go wrong while the shell reads and runs lines. Errors of reading are *fatal*: without
input there is nothing left to do. All others concern one line, and the next one is read after
them.

A call can also end without a value or an error, when a list is asked for a member that it does not
have. Nothing the shell does should come to that, and to be able to say so the possibility is kept
apart from the errors: `Halt.outOfRange`.
-/

namespace LineShell

/-- Why a line editor has no line. -/
inductive EditorFault where
  /-- The input is at its end. -/
  | endOfFile
  /-- The line was given up while it was edited. -/
  | interrupted
  /-- The input failed. -/
  | input (cause : Fault)
  deriving DecidableEq, Repr

/-- The wording of a line editor's fault. -/
def EditorFault.message : EditorFault → Text
  | .endOfFile => "EOF".toList
  | .interrupted => "Interrupted".toList
  | .input cause => cause.message

/-- An error of the shell. -/
inductive ShellError where
  /-- Prompting for a line or reading it failed. -/
  | readInput (cause : Fault)
  /-- There is no further line. -/
  | endOfInput
  /-- The line editor failed. -/
  | editor (cause : EditorFault)
  /-- The target of a redirection could not be opened. -/
  | redirect (target : Text) (cause : Fault)
  /-- The output of a command could not be written. -/
  | io (cause : Fault)
  deriving DecidableEq, Repr

namespace ShellError

/-- The wording of an error. -/
def message : ShellError → Text
  | .readInput cause => "Error reading input: ".toList ++ cause.message
  | .endOfInput => "Error reading input: EOF".toList
  | .editor _ => "Error reading input".toList
  | .redirect target cause =>
    "Error opening file: ".toList ++ target ++ ": ".toList ++ cause.message
  | .io cause => cause.message

/-- The wording of the error behind an error, where that is kept as one of its own. -/
def source? : ShellError → Option Text
  | .redirect _ cause => some cause.message
  | .editor cause => some cause.message
  | _ => none

/-- The errors that end the reading of lines. -/
def IsFatal : ShellError → Prop
  | .readInput _ | .endOfInput | .editor _ => True
  | .redirect .. | .io _ => False

instance : DecidablePred IsFatal := fun e ↦ by cases e <;> unfold IsFatal <;> infer_instance

end ShellError

/-- Why a call has no value. -/
inductive Halt where
  /-- An error of the shell. -/
  | error (error : ShellError)
  /-- A list was asked for a member that it does not have. -/
  | outOfRange
  deriving DecidableEq, Repr

end LineShell
