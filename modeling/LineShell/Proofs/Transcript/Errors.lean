import LineShell.Transcript

/-!
# Standard error without the log

What commands and the shell itself write to standard error does not depend on a filter. It is what
is left of the stream when the lines of the log are taken away.
-/

namespace LineShell

/-- What an emission adds to standard error besides the log. -/
def Emission.toErrors : Emission → Bytes
  | .err bytes => bytes
  | _ => []

namespace Transcript

/-- Standard error without the log. -/
def errors (t : Transcript) : Bytes := t.flatMap Emission.toErrors

@[simp] theorem errors_append (s t : Transcript) : errors (s ++ t) = errors s ++ errors t :=
  List.flatMap_append

/-- Whether a transcript shows nothing of a command, neither on standard output nor on standard
error. -/
def IsSilent (t : Transcript) : Prop := t.output = [] ∧ t.errors = []

end Transcript

end LineShell
