import LineShell.Event.DirectiveList
import LineShell.FileSystem.Setup
import LineShell.Process.Probe
import LineShell.Program

/-!
# Command line

Runs the shell on standard input, on a machine in memory: its files are those that every session may
rely on and one program, `/bin/probe`, and its variables are those of the surrounding process. Files
that a session writes are gone with it.
-/

namespace LineShell

/-- The machine that a session starts on. -/
def startingMachine (searchPath home : Option Bytes) : Machine where
  files := (FileSystem.initial.insert (FileSystem.textPlace ["bin"]) (.directory 0o755)).insert
    (FileSystem.textPlace ["bin", "probe"]) (.file 0o755 .program)
  location := .root
  searchPath := searchPath
  home := home
  behaviour := Probe.run

/-- The value of a variable of the surrounding process. -/
def variableBytes (name : String) : IO (Option Bytes) := do
  return (← IO.getEnv name).map fun v ↦ Utf8.encode v.toList

/-- All bytes of a stream; `fuel` bounds the number of reads. -/
def readBytes (stream : IO.FS.Stream) : Nat → ByteArray → IO ByteArray
  | 0, read => return read
  | fuel + 1, read => do
    let more ← stream.read 65536
    if more.isEmpty then return read else readBytes stream fuel (read ++ more)

end LineShell

/-- Runs the shell on standard input. -/
def main : IO UInt32 := do
  let input ← LineShell.readBytes (← IO.getStdin) 0x100000000 .empty
  let m := LineShell.startingMachine (← LineShell.variableBytes "PATH")
    (← LineShell.variableBytes "HOME")
  let r := LineShell.Program.run LineShell.DirectiveList.reader m
    (← LineShell.variableBytes "MINISH_LOG") input.toList
  (← IO.getStdout).write ⟨r.stdout.toArray⟩
  (← IO.getStderr).write ⟨r.stderr.toArray⟩
  return .ofNat r.status
