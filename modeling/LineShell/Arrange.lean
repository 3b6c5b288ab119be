import LineShell.FileSystem.Write
import LineShell.Machine

/-!
# Arranging files

Changes to the files of a machine that are made from outside of a session. Something is *put* at an
absolute path, together with the directories that lead there, or what a path names is *removed*.

Paths are walked as everywhere else, so links on the way are followed. What matters is the last
name. A file is put where that name leads, and its old content and mode give way. A directory may be
there already, and is given its mode. A link is put at a name that is new. What is removed is whatever
has the last name itself, be it a link or a directory with all that it contains. Only if that name is a link with a
slash behind it, or one of the two names made of dots, the path stands for a directory that keeps
its place, and its contents are removed. Everything else stays (`node?_files_remove`).

Somebody may stand in a directory that is removed, which is why removing concerns a whole machine.

Walking asks for the right to search, and opening a file for the rights that opening takes. That
entries may be added to a directory, or taken away, is not asked otherwise.
-/

namespace LineShell

namespace FileSystem

/-! ## Putting something in place -/

/-- The mode of a directory that is made on the way. -/
def wayMode : Mode := 0o777

/-- The file system once the names of a walk that are absent have been made directories. The walk
goes on as far as it can. -/
def makeAlong (fs : FileSystem) (l : Location) : List Name → FileSystem
  | [] => fs
  | n :: rest =>
    match fs.step l n with
    | .error _ => fs
    | .ok (.inside next) => makeAlong fs next rest
    | .ok .absent =>
      let p := l.place ++ [n]
      makeAlong (fs.insert p (.directory wayMode)) (.ofPlace p) rest
    | .ok (.link target) =>
      match fs.walk .find linkLimit (l.start target) target.steps with
      | .ok (.present next) => makeAlong fs next rest
      | _ => fs

/-- The file system with a directory at a path. At a path that ends in a dot none is made, only in
front of it. -/
def putDirectory (fs : FileSystem) (p : Path) : Except Fault FileSystem :=
  let toMake := if p.lastName? = some Path.here then p.parent else p
  let made := fs.makeAlong .root toMake.steps
  (made.enter .root p).map fun _ ↦ made

/-- The file system with a node at a name that is new. -/
def putNew (fs : FileSystem) (p : Path) (node : Node) : Except Fault FileSystem := do
  let l ← fs.enter .root p.parent
  match refusal? p, fs.step l (p.steps.getLastD []) with
  | some cause, _ => .error cause
  | none, .error e => .error (.system e)
  | none, .ok .absent => .ok (fs.insert (l.place ++ [p.steps.getLastD []]) node)
  | none, .ok _ => .error (.system .alreadyThere)

/-- The file system with a regular file where a path leads. -/
def putFile (fs : FileSystem) (p : Path) (mode : Mode) (content : Content) :
    Except Fault FileSystem := do
  match ← fs.openToWrite .root p with
  | (.file place, fs) => .ok (fs.insert place (.file mode content))
  | (.device .null, fs) => .ok fs
  | (.device .full, fs) => if content = .data [] then .ok fs else .error (.system .noSpace)

/-- The file system with a node at a path, and the directories that lead there. -/
def put (fs : FileSystem) (p : Path) (node : Node) : Except Fault FileSystem := do
  match node with
  | .directory mode =>
    let fs ← fs.putDirectory p
    let l ← fs.enter .root p
    .ok (fs.insert l.place (.directory mode))
  | .file mode content => (← fs.putDirectory p.parent).putFile p mode content
  | .link target =>
    match refusal? target with
    | some cause => .error cause
    | none => (← fs.putDirectory p.parent).putNew p node
  | .device _ => (← fs.putDirectory p.parent).putNew p node

/-! ## Removing -/

/-- A location once a place, and all below it, has been removed from the file system. Whoever stands
there, or below, keeps the directories from that place on, with their modes. -/
def locationAfterRemoval (fs : FileSystem) (l : Location) (p : Place) : Location :=
  if p <+: l.place then
    let left := l.place.length - l.lost.length
    let places := (List.range (left + 1 - p.length)).map fun i ↦ l.place.take (left - i)
    ⟨l.place, l.lost ++ places.filterMap fun q ↦ fs.directoryMode? (.ofPlace q)⟩
  else l

/-- The places of what is in the directory that a path leads to; none if it leads to none. -/
def contents (fs : FileSystem) (p : Path) : List Place :=
  match fs.enter .root p with
  | .ok l => if l.lost = [] then (fs.names l.place).map (l.place ++ [·]) else []
  | .error _ => []

/-- The places that are removed with what a path names; none if it names nothing. -/
def removal (fs : FileSystem) (p : Path) : List Place :=
  match refusal? p, p.lastName?, fs.enter .root p.parent with
  | none, some n, .ok l =>
    if ¬ Path.IsEntry n then fs.contents p
    else match fs.step l n with
      | .ok (.inside next) =>
        if p.EndsInSlash ∧ ¬ fs.IsDirectoryAt next then [] else [next.place]
      | .ok (.link _) => if p.EndsInSlash then fs.contents p else [l.place ++ [n]]
      | _ => []
  | _, _, _ => []

end FileSystem

/-! ## Machines -/

namespace Machine

/-- The machine with a node put at a path of its files. -/
def put (m : Machine) (p : Path) (node : Node) : Except Fault Machine :=
  (m.files.put p node).map fun files ↦ { m with files }

/-- The machine without the files at and below a place. -/
def removePlace (m : Machine) (p : Place) : Machine :=
  { m with files := m.files.removeAll p, location := m.files.locationAfterRemoval m.location p }

/-- The machine without what a path names. -/
def remove (m : Machine) (p : Path) : Machine := (m.files.removal p).foldl removePlace m

/-- What is neither at nor below a place that is removed stays as it is. -/
theorem node?_files_remove {m : Machine} {p : Path} {q : Place}
    (h : ∀ r ∈ m.files.removal p, ¬ r <+: q) :
    (m.remove p).files.node? q = m.files.node? q := by
  rw [remove]
  generalize m.files.removal p = places at h
  induction places generalizing m with
  | nil => rfl
  | cons r places ih =>
    have hr := h r List.mem_cons_self
    have hne : r ≠ [] := by
      rintro rfl
      exact hr List.nil_prefix
    rw [List.foldl_cons, ih fun r' hr' ↦ h r' (List.mem_cons_of_mem r hr'), removePlace,
      FileSystem.node?_removeAll _ hne, if_neg hr]

end Machine

end LineShell
