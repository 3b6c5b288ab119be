import LineShell.FileSystem
import LineShell.Text.Utf8

/-!
# The file system to start from

Every session may rely on a directory for temporary files and on two devices. Their places are
spelled in text.
-/

namespace LineShell.FileSystem

/-- A name given as text. -/
def textName (s : String) : Name := Utf8.encode s.toList

/-- A place given by names in text. -/
def textPlace (names : List String) : Place := names.map textName

/-- The file system that a session starts from: a directory for temporary files, the two devices,
and nothing else. -/
def initial : FileSystem :=
  (((empty.insert (textPlace ["tmp"]) (.directory 0o777)).insert
    (textPlace ["dev"]) (.directory 0o755)).insert
      (textPlace ["dev", "null"]) (.device .null)).insert
        (textPlace ["dev", "full"]) (.device .full)

end LineShell.FileSystem
