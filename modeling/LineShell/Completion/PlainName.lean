import LineShell.Completion

/-!
# Completion of plain names

A completer of the names of files, for words in which nothing is quoted and nothing has to be. A word
begins behind the last space. Up to its last slash it is the path of a directory, and what follows is
how the names of files begin.
-/

namespace LineShell

/-- A text up to and with its last slash. -/
def directoryPart (word : Text) : Text := (word.reverse.dropWhile (· ≠ '/')).reverse

/-- A text behind its last slash. -/
def namePart (word : Text) : Text := (word.reverse.takeWhile (· ≠ '/')).reverse

/-- The files whose names begin as a word does. A directory gets a slash, and a link that leads
nowhere is left out. -/
def Machine.fileCandidates (m : Machine) (word : Text) : List Candidate :=
  let dir := directoryPart word
  let path : Path := if dir = [] then Path.here else Utf8.encode dir
  let candidate? (n : Text) : Option Candidate :=
    match m.files.status m.location (path.join (Utf8.encode n)) with
    | .error _ => none
    | .ok (.directory _) => some ⟨n, dir ++ n ++ ['/']⟩
    | .ok _ => some ⟨n, dir ++ n⟩
  match m.files.list m.location path with
  | .error _ => []
  | .ok names =>
    (sortNames ((names.filterMap Utf8.decode?).filter (namePart word <+: ·))).filterMap candidate?

/-- Completes the word before a position with the names of files. -/
def Machine.completePlainName (m : Machine) : FileCompleter := fun line pos ↦
  let text := ((Utf8.splitAtByte? pos line).map Prod.fst).getD []
  .ok ⟨Utf8.size (beforeLastWord text), m.fileCandidates (lastWord text)⟩

end LineShell
