import LineShell.FileSystem.Walk

/-!
# Writing to files

A file is opened for writing by its path. Whatever it held is gone at once, its mode stays; a file
that may not be written to is not opened. A file that is not there is created with mode 644, also
where a link leads to nothing yet, if entries may be added to its directory. What is opened is remembered as a *handle*, which names the file
by its place and no longer by the path that led to it, and each write through the handle goes behind
the one before.

A failure to open leaves no trace: the file system comes back only together with a handle.
-/

namespace LineShell

/-- What has been opened for writing. -/
inductive Handle where
  /-- The regular file at a place. -/
  | file (place : Place)
  /-- A device. -/
  | device (kind : Device)
  deriving DecidableEq, Repr

namespace FileSystem

/-! ## Opening -/

/-- Opens the place at which a walk for a new file has arrived. -/
def openArrival (fs : FileSystem) : Arrival → Except Fault (Handle × FileSystem)
  | .absent dir name =>
    let p := dir.place ++ [name]
    if ¬ fs.IsWritableAt dir then .error (.system .denied)
    else .ok (.file p, fs.insert p (.file .fresh (.data [])))
  | .present l =>
    match fs.nodeAt? l with
    | some (.file mode _) =>
      if mode.AllowsWriting then .ok (.file l.place, fs.insert l.place (.file mode (.data [])))
      else .error (.system .denied)
    | some (.device kind) => .ok (.device kind, fs)
    | some (.directory _) => .error (.system .isDirectory)
    | _ => .error (.system .noEntry)

/-- Opens a path for writing: empties the file that it leads to, or creates it. -/
def openToWrite (fs : FileSystem) (l : Location) (p : Path) :
    Except Fault (Handle × FileSystem) :=
  match fs.arrive .create l p with
  | .error e => .error e
  | .ok arrival => fs.openArrival arrival

/-! ## Writing -/

/-- The file system with bytes added at the end of the file at a place. -/
def append (fs : FileSystem) (p : Place) (bytes : Bytes) : FileSystem :=
  match fs.node? p with
  | some (.file mode (.data old)) => fs.insert p (.file mode (.data (old ++ bytes)))
  | _ => fs

/-- Writes through a handle. A device without room refuses any byte, and no others. -/
def write (fs : FileSystem) (h : Handle) (bytes : Bytes) : Except Fault FileSystem :=
  match h with
  | .file p => .ok (fs.append p bytes)
  | .device .null => .ok fs
  | .device .full => if bytes = [] then .ok fs else .error (.system .noSpace)

/-! ## Laws -/

/-- What was added to a file is at its end, and no other place is touched. -/
theorem node?_append {fs : FileSystem} {p : Place} (hp : p ≠ []) {mode : Mode} {old : Bytes}
    (h : fs.node? p = some (.file mode (.data old))) (bytes : Bytes) (q : Place) :
    (fs.append p bytes).node? q =
      if q = p then some (.file mode (.data (old ++ bytes))) else fs.node? q := by
  rw [append, h]
  exact node?_insert fs hp _ q

/-- Writing fails only for want of room, and then something was to be written. -/
theorem write_eq_error_iff {fs : FileSystem} {h : Handle} {bytes : Bytes} {e : Fault} :
    fs.write h bytes = .error e ↔
      h = .device .full ∧ bytes ≠ [] ∧ e = .system .noSpace := by
  match h with
  | .file p => simp [write]
  | .device .null => simp [write]
  | .device .full => by_cases hb : bytes = [] <;> simp [write, hb, eq_comm]

end FileSystem

end LineShell
