import LineShell.Builtin
import LineShell.Surroundings
import LineShell.Text.Utf8

/-!
# Commands

What the name of a command stands for, and the three builtins that ask their surroundings.

A name that is no builtin is looked up in the directories of the search path, in order. The name is
taken to be relative to each of them even if it begins with slashes, so that a command always lies
in or below some directory of the search path. An unset search path is an empty one, and that has
one directory: the empty path, which leaves the name relative to the working directory.
-/

namespace LineShell

/-! ## What a name stands for -/

/-- What a name stands for. -/
inductive Command where
  /-- A builtin. -/
  | builtin (builtin : Builtin)
  /-- A program, by the path at which it was found. -/
  | external (path : Path)
  /-- Nothing. -/
  | notFound
  deriving DecidableEq, Repr

/-- The first path to an executable file that a name has in the directories of a search path. -/
def findInPath (isExecutable : Path → Bool) (name : Text) (searchPath : Bytes) : Option Path :=
  ((Path.directories searchPath).map fun dir ↦
    dir.join (Path.relative (Utf8.encode name))).find? isExecutable

/-- What a name stands for. Builtins come first, and for them no search path is read. -/
def Command.ofName (s : Surroundings) (name : Text) : Reply Command :=
  match Builtin.ofName? name with
  | some b => ⟨.builtin b, []⟩
  | none =>
    match findInPath s.isExecutable name (s.searchPath.getD []) with
    | some p => ⟨.external p, [.searchPath]⟩
    | none => ⟨.notFound, [.searchPath]⟩

/-! ## Builtins that ask their surroundings -/

namespace Builtin

/-- What `type` writes: what its argument stands for. -/
def runType (s : Surroundings) (args : List Text) : Reply Text :=
  match args[1]? with
  | none => ⟨[], []⟩
  | some name =>
    let found := Command.ofName s name
    let text := match found.value with
      | .builtin _ => name ++ " is a shell builtin\n".toList
      | .external p => name ++ " is ".toList ++ Utf8.decodeLossy p ++ ['\n']
      | .notFound => name ++ ": not found\n".toList
    ⟨text, found.calls⟩

/-- What `pwd` writes: the working directory, or nothing if it is not known. -/
def runPwd (s : Surroundings) : Reply Text :=
  ⟨match s.workingDir with
    | some dir => Utf8.decodeLossy dir ++ ['\n']
    | none => [], [.workingDir]⟩

/-- What `cd` writes when it cannot move. -/
def cdFailure (target : Text) : Text :=
  "cd: ".toList ++ target ++ ": No such file or directory\n".toList

/-- A text with its first `~` replaced. -/
def expandTilde (home : Text) (t : Text) : Text :=
  match t.dropWhile (· ≠ '~') with
  | [] => t
  | _ :: rest => t.takeWhile (· ≠ '~') ++ home ++ rest

/-- Asks to be moved to a directory, after calls already made. -/
def move (s : Surroundings) (target : Text) (calls : List Call) : Reply Text :=
  let p := Utf8.encode target
  ⟨if s.canEnter p then [] else cdFailure target, calls ++ [.move p]⟩

/-- Moves to the directory that its argument names. The first `~` stands for the home directory,
which is asked for only then. -/
def runCd (s : Surroundings) (args : List Text) : Reply Text :=
  match args[1]? with
  | none => ⟨[], []⟩
  | some arg =>
    if '~' ∈ arg then
      match s.home with
      | none => ⟨cdFailure arg, [.home]⟩
      | some home => move s (expandTilde (Utf8.decodeLossy home) arg) [.home]
    else move s arg []

end Builtin

/-! ## Laws -/

theorem Builtin.expandTilde_append (home : Text) {pre : Text} (h : '~' ∉ pre) (post : Text) :
    expandTilde home (pre ++ '~' :: post) = pre ++ home ++ post := by
  have hpre : ∀ c ∈ pre, decide (c ≠ '~') = true := fun c hc ↦ by
    simpa using fun hcc : c = '~' ↦ h (hcc ▸ hc)
  rw [expandTilde, List.dropWhile_append_of_pos hpre, List.takeWhile_append_of_pos hpre]
  simp

/-- Names that differ only in slashes before them are looked up alike. -/
theorem findInPath_cons_slash (isExecutable : Path → Bool) (name : Text) (searchPath : Bytes) :
    findInPath isExecutable ('/' :: name) searchPath
      = findInPath isExecutable name searchPath := by
  have h : Utf8.encode ('/' :: name) = slash :: Utf8.encode name := rfl
  rw [findInPath, h, Path.relative_cons_slash]
  rfl

theorem isExecutable_of_findInPath {isExecutable : Path → Bool} {name : Text} {searchPath : Bytes}
    {p : Path} (h : findInPath isExecutable name searchPath = some p) : isExecutable p = true :=
  List.find?_some h

end LineShell
