import LineShell.FileSystem.Forest

/-!
# File systems

A file system says which node stands at which *place*, and a place is the list of names that leads
there from the root. Directories themselves hold no tables; the entries of one are the nodes one
name further down. There are no hard links, so a place identifies a file, and whatever changes a
file changes the node of one place.

The root is a directory of which only the mode is kept. `node?` is the view through which everything
else looks at a file system; `insert` and `removeAll` are the only changes, and each is described by
what it does to that view.

## Rights

Files and directories belong to whoever runs the shell, and nobody has a right beyond their modes.
What may be done is therefore settled by the bits of a mode that are for the owner. Of a directory
they say whether its names may be listed, whether entries may be added, and whether it may be
*searched*, which is to walk from it to anything by a name.

A mode is made of these bits only. There are no set-id bits, which would change whom a program runs
for, so nothing is lost from a mode when a file is written to. The umask is 0: nothing is masked out
of the mode of a file that is created.
-/

namespace LineShell

/-! ## Nodes -/

/-- The permission bits of a file or directory. -/
abbrev Mode := Nat

/-- The mode of a file that the shell creates. -/
def Mode.fresh : Mode := 0o644

/-- Whether some execute bit is set. -/
def Mode.IsExecutable (m : Mode) : Prop := m &&& 0o111 ≠ 0

instance (m : Mode) : Decidable m.IsExecutable := inferInstanceAs (Decidable (_ ≠ _))

/-- Whether the owner may read the file, or list the directory. -/
def Mode.AllowsReading (m : Mode) : Prop := m &&& 0o400 ≠ 0

instance (m : Mode) : Decidable m.AllowsReading := inferInstanceAs (Decidable (_ ≠ _))

/-- Whether the owner may write to the file, or add entries to the directory. -/
def Mode.AllowsWriting (m : Mode) : Prop := m &&& 0o200 ≠ 0

instance (m : Mode) : Decidable m.AllowsWriting := inferInstanceAs (Decidable (_ ≠ _))

/-- Whether the owner may run the file. -/
def Mode.AllowsRunning (m : Mode) : Prop := m &&& 0o100 ≠ 0

instance (m : Mode) : Decidable m.AllowsRunning := inferInstanceAs (Decidable (_ ≠ _))

/-- Whether the owner may search the directory. What lets a file be run lets a directory be
searched. -/
abbrev Mode.AllowsSearching (m : Mode) : Prop := m.AllowsRunning

/-- What a regular file holds. -/
inductive Content where
  /-- Bytes without a further meaning. -/
  | data (bytes : Bytes)
  /-- The image of a program that the machine can run. -/
  | program
  deriving DecidableEq, Repr

/-- A device: a file without content of its own. -/
inductive Device where
  /-- Takes everything that is written to it and keeps nothing. -/
  | null
  /-- Has no room for anything. -/
  | full
  deriving DecidableEq, Repr

/-- What stands at a place. -/
inductive Node where
  /-- A directory. -/
  | directory (mode : Mode)
  /-- A regular file. -/
  | file (mode : Mode) (content : Content)
  /-- A symbolic link to wherever its target leads. -/
  | link (target : Path)
  /-- A device. -/
  | device (kind : Device)
  deriving DecidableEq, Repr

/-- Whether a node may be looked into. -/
def Node.isReadable : Node → Bool
  | .directory mode | .file mode _ => mode.AllowsReading
  | _ => true

/-! ## Places -/

/-- A place: the names that lead there from the root. -/
abbrev Place := List Name

/-- The absolute path of a place. -/
def Place.path : Place → Path
  | [] => [slash]
  | names => names.flatMap (slash :: ·)

@[simp] theorem Place.path_nil : Place.path [] = [slash] := rfl

theorem Place.path_of_ne_nil {p : Place} (h : p ≠ []) : p.path = p.flatMap (slash :: ·) := by
  cases p with
  | nil => exact absurd rfl h
  | cons => rfl

theorem Place.isAbsolute_path (p : Place) : p.path.IsAbsolute := by
  cases p <;> simp [Place.path, Path.IsAbsolute]

/-! ## File systems -/

/-- The nodes of a file system by their places. The root is not among them. -/
structure FileSystem where
  /-- The mode of the root. -/
  rootMode : Mode
  /-- The nodes. -/
  nodes : Forest Node
  deriving DecidableEq, Repr

namespace FileSystem

/-- The file system in which there is nothing but the root. -/
def empty : FileSystem := ⟨0o755, .empty⟩

/-- What stands at a place, if anything does. -/
def node? (fs : FileSystem) (p : Place) : Option Node :=
  if p = [] then some (.directory fs.rootMode) else fs.nodes.find? p

/-- The file system with a node put at a place, instead of any other there. -/
def insert (fs : FileSystem) (p : Place) (n : Node) : FileSystem :=
  { fs with nodes := fs.nodes.insert n p }

/-- The file system without the places at and below a given one. -/
def removeAll (fs : FileSystem) (p : Place) : FileSystem :=
  { fs with nodes := fs.nodes.removeAll p }

/-- The names in a directory. -/
def names (fs : FileSystem) (dir : Place) : List Name := (fs.nodes.under dir).names

/-- Whether there is a directory at a place. -/
def IsDirectory (fs : FileSystem) (p : Place) : Prop := ∃ mode, fs.node? p = some (.directory mode)

/-- Whether there is a directory at a place that may be searched. -/
def IsSearchable (fs : FileSystem) (p : Place) : Prop :=
  ∃ mode, fs.node? p = some (.directory mode) ∧ mode.AllowsSearching

/-! ## The view -/

@[simp] theorem node?_root (fs : FileSystem) : fs.node? [] = some (.directory fs.rootMode) := rfl

theorem node?_of_ne_nil {fs : FileSystem} {p : Place} (h : p ≠ []) :
    fs.node? p = fs.nodes.find? p := if_neg h

theorem node?_empty {p : Place} (h : p ≠ []) : empty.node? p = none := by
  rw [node?_of_ne_nil h, empty, Forest.find?_empty]

/-- Putting a node somewhere shows there and nowhere else. -/
theorem node?_insert (fs : FileSystem) {p : Place} (hp : p ≠ []) (n : Node) (q : Place) :
    (fs.insert p n).node? q = if q = p then some n else fs.node? q := by
  by_cases hq : q = []
  · rw [if_neg fun h ↦ hp (h.symm.trans hq), hq, node?_root, node?_root, insert]
  · rw [node?_of_ne_nil hq, node?_of_ne_nil hq, insert, Forest.find?_insert _ hp]

/-- Of two nodes put at a place only the second has anything to do with the file system. -/
theorem insert_insert (fs : FileSystem) (p : Place) (m n : Node) :
    (fs.insert p m).insert p n = fs.insert p n := by
  rw [insert, insert, insert, Forest.insert_insert]

/-- Removing a place shows at it and below it, and nowhere else. -/
theorem node?_removeAll (fs : FileSystem) {p : Place} (hp : p ≠ []) (q : Place) :
    (fs.removeAll p).node? q = if p <+: q then none else fs.node? q := by
  by_cases hq : q = []
  · rw [if_neg fun h ↦ hp (List.prefix_nil.1 (hq ▸ h)), hq, node?_root, node?_root, removeAll]
  · rw [node?_of_ne_nil hq, node?_of_ne_nil hq, removeAll, Forest.find?_removeAll _ hp]

/-- The names in a directory are those at whose places something stands. -/
theorem mem_names_iff {fs : FileSystem} {dir : Place} {n : Name} :
    n ∈ fs.names dir ↔ (fs.node? (dir ++ [n])).isSome := by
  rw [names, Forest.mem_names_iff, Forest.find?_under _ _ (by simp), node?_of_ne_nil (by simp)]

theorem isDirectory_root (fs : FileSystem) : fs.IsDirectory [] := ⟨fs.rootMode, rfl⟩

theorem IsDirectory.isSome {fs : FileSystem} {p : Place} (h : fs.IsDirectory p) :
    (fs.node? p).isSome := by
  obtain ⟨mode, hmode⟩ := h
  rw [hmode]
  rfl

theorem IsSearchable.isDirectory {fs : FileSystem} {p : Place} (h : fs.IsSearchable p) :
    fs.IsDirectory p := by
  obtain ⟨mode, hmode, -⟩ := h
  exact ⟨mode, hmode⟩

end FileSystem

end LineShell
