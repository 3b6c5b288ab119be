import LineShell.Command
import LineShell.Error
import LineShell.Machine
import LineShell.Text.Blank

/-!
# Completion of words

What could stand in the place of an unfinished word of a line. The word begins behind the last space
before the position. If only blanks stand before the word it is the name of a command, and can be a
builtin or an executable file of a directory of the search path. Otherwise it is the name of a file,
and completing that is left to another (`FileCompleter`), who is asked with the whole line.

Positions count bytes of the line in UTF-8. There is no completion at a position behind the end of
the line or inside a character.
-/

namespace LineShell

/-! ## Commands -/

/-- Names in the order of their bytes, each of them once. -/
def sortNames (names : List Text) : List Text :=
  names.eraseDups.mergeSort fun a b ↦ Utf8.encode a ≤ Utf8.encode b

/-- The names of the executable files in a directory, where they are UTF-8. A directory that cannot
be listed has none. -/
def Machine.executablesIn (m : Machine) (dir : Path) : List Text :=
  match m.files.list m.location dir with
  | .error _ => []
  | .ok names => (names.filter fun n ↦ m.isExecutable (dir.join n)).filterMap Utf8.decode?

/-- The names of the commands that begin in a given way. -/
def Machine.commandNames (m : Machine) (start : Text) (searchPath : Option Bytes) : List Text :=
  let directories := (searchPath.map Path.directories).getD []
  let names := Builtin.all.map Builtin.name ++ directories.flatMap m.executablesIn
  sortNames (names.filter (start <+: ·))

/-! ## Lines -/

/-- The unfinished word at the end of a text. -/
def lastWord (t : Text) : Text := (t.reverse.takeWhile (· ≠ ' ')).reverse

/-- The text before the unfinished word at its end. -/
def beforeLastWord (t : Text) : Text := (t.reverse.dropWhile (· ≠ ' ')).reverse

theorem beforeLastWord_append_lastWord (t : Text) : beforeLastWord t ++ lastWord t = t := by
  rw [beforeLastWord, lastWord, ← List.reverse_append, List.takeWhile_append_dropWhile,
    List.reverse_reverse]

/-- A possible word: what is shown for it, and what it is replaced by. -/
structure Candidate where
  /-- What is shown. -/
  display : Text
  /-- What the unfinished word is replaced by. -/
  replacement : Text
  deriving DecidableEq, Repr

/-- The candidate that a name of a command makes. -/
def Candidate.ofCommand (name : Text) : Candidate := ⟨name, name ++ [' ']⟩

/-- The completions of a word. -/
structure Completion where
  /-- The byte position where the word begins. -/
  start : Nat
  /-- What could stand there. -/
  candidates : List Candidate
  deriving DecidableEq, Repr

/-- Who completes the names of files: for a line and a byte position in it, the completions there, or
why there are none. -/
abbrev FileCompleter := Text → Nat → Except EditorFault Completion

/-- The completions of a line at a byte position. -/
def Machine.complete? (m : Machine) (files : FileCompleter) (line : Text) (pos : Nat) :
    Option (Except EditorFault Completion) :=
  (Utf8.splitAtByte? pos line).map fun s ↦
    let before := beforeLastWord s.1
    if isBlank before then
      .ok ⟨Utf8.size before,
        (m.commandNames (lastWord s.1) m.searchPath).map Candidate.ofCommand⟩
    else files line pos

end LineShell
