import LineShell.Error
import LineShell.Event.Filter
import LineShell.Machine

/-!
# Acting on the world

What a program can change while it runs is its *world*: the machine, and what has been written to the
two outputs so far. An *act* is what a program does there, step by step. It can fail, and then
everything that it has done before stays done. A filter is there all along and decides, at each
event that an act reports, whether a line is written (`Act.report`).

Standard error is shared by programs, by the shell when it tells of an error, and by the log. It is
kept in *pieces*, each of which knows whether it belongs to the log.
-/

namespace LineShell

/-! ## The world -/

/-- A piece of standard error, by who wrote it. -/
inductive ErrorPiece where
  /-- The line of the log for an event. -/
  | log (event : Event)
  /-- What a program wrote, or the shell when it told of an error. -/
  | plain (bytes : Bytes)
  deriving DecidableEq, Repr

namespace ErrorPiece

/-- The bytes of a piece. -/
def bytes : ErrorPiece → Bytes
  | .log e => Utf8.encode e.line
  | .plain bytes => bytes

/-- The event for which a piece is in the log, if it is there. -/
def event? : ErrorPiece → Option Event
  | .log e => some e
  | .plain _ => none

/-- Whether a piece is not the log's. -/
def IsPlain (piece : ErrorPiece) : Prop := piece.event? = none

instance (piece : ErrorPiece) : Decidable piece.IsPlain := inferInstanceAs (Decidable (_ = _))

end ErrorPiece

/-- What a program can change. -/
structure World where
  /-- The machine that it runs on. -/
  machine : Machine
  /-- What has been written to standard output. -/
  stdout : Bytes
  /-- What has been written to standard error. -/
  stderr : List ErrorPiece

/-! ## Acts -/

/-- What a program does, with a filter for its log and a world to change. -/
abbrev Act := ReaderT Filter (ExceptT Halt (StateM World))

namespace Act

/-- Carries out an act: how it ended, and the world afterwards. -/
def run {α : Type} (a : Act α) (f : Filter) (w : World) : Except Halt α × World :=
  StateT.run (ExceptT.run (ReaderT.run a f)) w

/-- Does an act that may fail, and tells how it ended. -/
def attempt {α : Type} (a : Act α) : Act (Except Halt α) := fun f ↦ ExceptT.lift (ExceptT.run (a f))

/-- Looks at the machine. -/
def machine : Act Machine := return (← get).machine

/-- Changes the machine. -/
def setMachine (m : Machine) : Act Unit := modify fun w ↦ { w with machine := m }

/-- Writes to standard output. -/
def print (bytes : Bytes) : Act Unit := modify fun w ↦ { w with stdout := w.stdout ++ bytes }

/-- Writes to standard error. -/
def complain (bytes : Bytes) : Act Unit :=
  modify fun w ↦ { w with stderr := w.stderr ++ [.plain bytes] }

/-- Writes a line to the log for an event that the filter admits. -/
def report (e : Event) : Act Unit := do
  if (← read) e then modify fun w ↦ { w with stderr := w.stderr ++ [.log e] }

end Act

end LineShell
