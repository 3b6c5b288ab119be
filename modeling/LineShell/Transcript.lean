import LineShell.Event.Filter

/-!
# Transcripts

All that comes out of a run, in order: prompts, bytes on standard output, bytes on standard error,
and events. One list holds them all, because they share streams: prompts appear on standard output
among the output of commands, and events that are logged on standard error among errors.

A transcript knows nothing of a log: it has all events, also those that nobody has asked for. A
filter says how much of it is seen.
-/

namespace LineShell

/-- Something that comes out of a run. -/
inductive Emission where
  /-- What was written of a prompt. -/
  | prompt (bytes : Bytes)
  /-- Bytes that a command wrote to standard output. -/
  | out (bytes : Bytes)
  /-- Bytes on standard error. -/
  | err (bytes : Bytes)
  /-- An event. -/
  | event (event : Event)
  deriving DecidableEq, Repr

/-- What comes out of a run, the earliest first. -/
abbrev Transcript := List Emission

namespace Emission

/-- What an emission adds to the prompts. -/
def toPrompts : Emission → Bytes
  | .prompt bytes => bytes
  | _ => []

/-- What an emission adds to the output of commands. -/
def toOutput : Emission → Bytes
  | .out bytes => bytes
  | _ => []

/-- What an emission adds to standard output, prompts included. -/
def toStdout : Emission → Bytes
  | .prompt bytes | .out bytes => bytes
  | _ => []

/-- What an emission adds to standard error while a filter decides on events. -/
def toStderr (f : Filter) : Emission → Bytes
  | .prompt _ | .out _ => []
  | .err bytes => bytes
  | .event e => if f e then Utf8.encode e.line else []

end Emission

namespace Transcript

/-- The prompts. -/
def prompts (t : Transcript) : Bytes := t.flatMap Emission.toPrompts

/-- The output of commands. -/
def output (t : Transcript) : Bytes := t.flatMap Emission.toOutput

/-- Standard output, prompts included. -/
def stdout (t : Transcript) : Bytes := t.flatMap Emission.toStdout

/-- Standard error while a filter decides on events. -/
def stderr (f : Filter) (t : Transcript) : Bytes := t.flatMap (Emission.toStderr f)

@[simp] theorem prompts_append (s t : Transcript) : prompts (s ++ t) = prompts s ++ prompts t :=
  List.flatMap_append

@[simp] theorem output_append (s t : Transcript) : output (s ++ t) = output s ++ output t :=
  List.flatMap_append

@[simp] theorem stdout_append (s t : Transcript) : stdout (s ++ t) = stdout s ++ stdout t :=
  List.flatMap_append

@[simp] theorem stderr_append (f : Filter) (s t : Transcript) :
    stderr f (s ++ t) = stderr f s ++ stderr f t :=
  List.flatMap_append

end Transcript

end LineShell
