import LineShell.FileSystem
import LineShell.Fault

/-!
# Walking a path

A path means something only when it is walked, name by name, from the root or from where one
stands. A name is looked up in a directory, and the directory must be searchable, also for the names
that stay or go up. Going up is physical: `..` leads to the directory that contains the one reached, whichever
links were followed on the way. A link is followed by walking its target from the directory that
holds the link, and then whatever was left to walk.

## Standing in a directory that is gone

A directory can be removed while somebody stands in it. It then contains nothing, but its `..`
still leads up. A *location* therefore is a place together with the modes of the directories at its
end that no longer stand there; going up takes one of them away.

## Two purposes

A path is walked to *find* what is there, or to *create* a file where nothing is. In both cases the
last name may lead through links, and a walk arrives at something present or at an absent name of a
present directory. They differ in one rule: a path for a new file that ends in a slash is refused
as a directory, as soon as the directory before its last name is reached and may be searched.

## Why a walk ends

Each name walked leaves fewer names, except for a link, whose target is walked in its stead; at most
`linkLimit` links are followed in one walk. `walkFrom` is the first recursion and leaves links to
its argument, `walk` is the second.
-/

namespace LineShell

/-! ## Locations -/

/-- A place to stand in, of which the last names may have been removed. -/
structure Location where
  /-- The place as it was entered. -/
  place : Place
  /-- The modes of the directories at the end of it that are gone, the last of them first. -/
  lost : List Mode
  deriving DecidableEq, Repr

namespace Location

/-- The root. -/
def root : Location := ⟨[], []⟩

/-- A place that is there. -/
def ofPlace (p : Place) : Location := ⟨p, []⟩

/-- The location above; the root is above itself. -/
def up (l : Location) : Location := ⟨l.place.dropLast, l.lost.tail⟩

/-- The absolute path of a location that is there. -/
def path? (l : Location) : Option Path := if l.lost = [] then some l.place.path else none

/-- Where the walk of a path starts for somebody who stands at a location. -/
def start (l : Location) (p : Path) : Location := if p.IsAbsolute then root else l

@[simp] theorem up_ofPlace (p : Place) : (Location.ofPlace p).up = .ofPlace p.dropLast := rfl

@[simp] theorem path?_ofPlace (p : Place) : (Location.ofPlace p).path? = some p.path := rfl

end Location

/-! ## Limits -/

/-- The greatest number of bytes in a name. -/
def nameLimit : Nat := 255

/-- The number of bytes that a path stays below. -/
def pathLimit : Nat := 4096

/-- The greatest number of links followed in one walk. -/
def linkLimit : Nat := 40

/-! ## One step -/

/-- What one name leads to. -/
inductive Step where
  /-- Something that is there. -/
  | inside (location : Location)
  /-- A link, not yet followed. -/
  | link (target : Path)
  /-- Nothing: the directory has no such entry. -/
  | absent
  deriving DecidableEq, Repr

namespace FileSystem

/-- The node at a location. What has been removed was a directory, and somebody still stands in
it. -/
def nodeAt? (fs : FileSystem) (l : Location) : Option Node :=
  match l.lost with
  | [] => fs.node? l.place
  | mode :: _ => some (.directory mode)

/-- Whether there is a directory at a location. -/
def IsDirectoryAt (fs : FileSystem) (l : Location) : Prop :=
  ∃ mode, fs.nodeAt? l = some (.directory mode)

/-- Whether there is a directory at a location that may be searched. -/
def IsSearchableAt (fs : FileSystem) (l : Location) : Prop :=
  ∃ mode, fs.nodeAt? l = some (.directory mode) ∧ mode.AllowsSearching

/-- Whether there is a directory at a location to which entries may be added. -/
def IsWritableAt (fs : FileSystem) (l : Location) : Prop :=
  ∃ mode, fs.nodeAt? l = some (.directory mode) ∧ mode.AllowsWriting

/-- The mode of the directory at a location, if there is one. -/
def directoryMode? (fs : FileSystem) (l : Location) : Option Mode :=
  match fs.nodeAt? l with
  | some (.directory mode) => some mode
  | _ => none

theorem directoryMode?_eq_some_iff {fs : FileSystem} {l : Location} {mode : Mode} :
    fs.directoryMode? l = some mode ↔ fs.nodeAt? l = some (.directory mode) := by
  rw [directoryMode?]
  split
  · next h => simp [h]
  · next h => simpa using h mode

theorem isDirectoryAt_iff_isSome {fs : FileSystem} {l : Location} :
    fs.IsDirectoryAt l ↔ (fs.directoryMode? l).isSome := by
  simp [IsDirectoryAt, Option.isSome_iff_exists, directoryMode?_eq_some_iff]

theorem exists_directory_iff_any {fs : FileSystem} {l : Location} {right : Mode → Prop}
    [DecidablePred right] :
    (∃ mode, fs.nodeAt? l = some (.directory mode) ∧ right mode) ↔
      (fs.directoryMode? l).any fun mode ↦ right mode := by
  simp [Option.any_eq_true, directoryMode?_eq_some_iff]

instance (fs : FileSystem) (l : Location) : Decidable (fs.IsDirectoryAt l) :=
  decidable_of_iff _ isDirectoryAt_iff_isSome.symm

instance (fs : FileSystem) (l : Location) : Decidable (fs.IsSearchableAt l) :=
  decidable_of_iff _ exists_directory_iff_any.symm

instance (fs : FileSystem) (l : Location) : Decidable (fs.IsWritableAt l) :=
  decidable_of_iff _ exists_directory_iff_any.symm

instance (fs : FileSystem) (p : Place) : Decidable (fs.IsDirectory p) :=
  inferInstanceAs (Decidable (fs.IsDirectoryAt (.ofPlace p)))

instance (fs : FileSystem) (p : Place) : Decidable (fs.IsSearchable p) :=
  inferInstanceAs (Decidable (fs.IsSearchableAt (.ofPlace p)))

/-- What a name leads to from a location. The empty name asks for a directory and stays there, and
it is the only one for which a directory is not searched. -/
def step (fs : FileSystem) (l : Location) (n : Name) : Except SystemError Step :=
  if ¬ fs.IsDirectoryAt l then .error .notDirectory
  else if n = [] then .ok (.inside l)
  else if ¬ fs.IsSearchableAt l then .error .denied
  else if n = Path.here then .ok (.inside l)
  else if n = Path.above then .ok (.inside l.up)
  else if l.lost ≠ [] then .error .noEntry
  else if nameLimit < n.length then .error .nameTooLong
  else match fs.node? (l.place ++ [n]) with
    | none => .ok .absent
    | some (.link target) => .ok (.link target)
    | some _ => .ok (.inside (.ofPlace (l.place ++ [n])))

/-- Why a path for a new file that ends in a slash is refused at the directory before its last
name. -/
def slashFault (fs : FileSystem) (l : Location) : SystemError :=
  if ¬ fs.IsDirectoryAt l then .notDirectory
  else if ¬ fs.IsSearchableAt l then .denied
  else .isDirectory

/-! ## Whole walks -/

/-- Why a path is walked. -/
inductive Purpose where
  /-- To find what is there. -/
  | find
  /-- To create a file if nothing is there. -/
  | create
  deriving DecidableEq, Repr

/-- Where a walk arrives. -/
inductive Arrival where
  /-- At something that is there and is no link. -/
  | present (location : Location)
  /-- At a name that a directory does not have. -/
  | absent (directory : Location) (name : Name)
  deriving DecidableEq, Repr

/-- Walks names up to the first link and leaves the link to `follow`, with the location of its
directory, its target and the names that remain. -/
def walkFrom (fs : FileSystem) (purpose : Purpose)
    (follow : Location → Path → List Name → Except SystemError Arrival) :
    Location → List Name → Except SystemError Arrival
  | l, [] => .ok (.present l)
  | l, n :: rest =>
    if purpose = .create ∧ rest = [[]] ∧ Path.IsEntry n then
      -- The slash at the end is judged before anybody looks for the name.
      .error (fs.slashFault l)
    else match fs.step l n with
      | .error e => .error e
      | .ok (.inside next) => walkFrom fs purpose follow next rest
      | .ok (.link target) => follow l target rest
      | .ok .absent => if rest = [] then .ok (.absent l n) else .error .noEntry

/-- Walks names, following at most the given number of links. -/
def walk (fs : FileSystem) (purpose : Purpose) :
    Nat → Location → List Name → Except SystemError Arrival
  | 0 => walkFrom fs purpose fun _ _ _ ↦ .error .tooManyLinks
  | links + 1 => walkFrom fs purpose fun l target rest ↦
      walk fs purpose links (l.start target) (target.steps ++ rest)

/-- Why a path is not even walked: a NUL byte in it, no bytes at all, or too many. -/
def refusal? (p : Path) : Option Fault :=
  if nul ∈ p then some .nulInPath
  else if p = [] then some (.system .noEntry)
  else if pathLimit ≤ p.length then some (.system .nameTooLong)
  else none

/-- Walks a path for somebody who stands at a location. -/
def arrive (fs : FileSystem) (purpose : Purpose) (l : Location) (p : Path) :
    Except Fault Arrival :=
  match refusal? p with
  | some cause => .error cause
  | none => (fs.walk purpose linkLimit (l.start p) p.steps).mapError .system

/-! ## Looking -/

/-- The location that a path leads to. -/
def locate (fs : FileSystem) (l : Location) (p : Path) : Except Fault Location :=
  match fs.arrive .find l p with
  | .error e => .error e
  | .ok (.present target) => .ok target
  | .ok (.absent ..) => .error (.system .noEntry)

/-- The node that a path leads to, links followed. -/
def status (fs : FileSystem) (l : Location) (p : Path) : Except Fault Node :=
  match fs.locate l p with
  | .error e => .error e
  | .ok target =>
    match fs.nodeAt? target with
    | none => .error (.system .noEntry)
    | some n => .ok n

/-- Whether a path leads to a regular file with an execute bit. -/
def isExecutable (fs : FileSystem) (l : Location) (p : Path) : Bool :=
  match fs.status l p with
  | .ok (.file mode _) => decide mode.IsExecutable
  | _ => false

/-- The location to stand in after entering the directory that a path leads to. Only a directory
that may be searched is entered. -/
def enter (fs : FileSystem) (l : Location) (p : Path) : Except Fault Location :=
  match fs.locate l p with
  | .error e => .error e
  | .ok target =>
    if ¬ fs.IsDirectoryAt target then .error (.system .notDirectory)
    else if ¬ fs.IsSearchableAt target then .error (.system .denied)
    else .ok target

/-- The names in the directory that a path leads to, if it may be read; none are left in one that is
gone. -/
def list (fs : FileSystem) (l : Location) (p : Path) : Except Fault (List Name) :=
  match fs.locate l p with
  | .error e => .error e
  | .ok target =>
    match fs.nodeAt? target with
    | some (.directory mode) =>
      if ¬ mode.AllowsReading then .error (.system .denied)
      else .ok (if target.lost = [] then fs.names target.place else [])
    | _ => .error (.system .notDirectory)

/-! ## Laws -/

theorem refusal?_eq_none_iff {p : Path} :
    refusal? p = none ↔ nul ∉ p ∧ p ≠ [] ∧ p.length < pathLimit := by
  rw [refusal?]
  repeat' split
  all_goals simp_all

/-- A path is executable exactly when it leads to a regular file with an execute bit. -/
theorem isExecutable_iff {fs : FileSystem} {l : Location} {p : Path} :
    fs.isExecutable l p = true ↔
      ∃ mode content, fs.status l p = .ok (.file mode content) ∧ mode.IsExecutable := by
  rw [isExecutable]
  split
  · next h => simp [h]
  · next h =>
    simp only [Bool.false_eq_true, false_iff, not_exists, not_and]
    intro mode content hs
    exact absurd hs (h mode content)

theorem IsSearchableAt.isDirectoryAt {fs : FileSystem} {l : Location} (h : fs.IsSearchableAt l) :
    fs.IsDirectoryAt l := by
  obtain ⟨mode, hmode, -⟩ := h
  exact ⟨mode, hmode⟩

theorem isSearchableAt_of_enter {fs : FileSystem} {l target : Location} {p : Path}
    (h : fs.enter l p = .ok target) : fs.IsSearchableAt target := by
  rw [enter] at h
  split at h
  · exact absurd h (by simp)
  · split at h
    · exact absurd h (by simp)
    · split at h
      · exact absurd h (by simp)
      · next hs => exact Except.ok.inj h ▸ Decidable.not_not.1 hs

end FileSystem

end LineShell
