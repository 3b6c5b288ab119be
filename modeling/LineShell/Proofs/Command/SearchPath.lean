import LineShell.Machine
import LineShell.Proofs.Command.Lookup
import LineShell.Proofs.FileSystem.ExplicitPath
import LineShell.Proofs.Text.Decoding

/-!
# Looking up a name in a search path

A name that is looked up has one path in each directory of the search path, and the first of them
that leads to an executable file is what it stands for (`findInPath_eq_some_iff`). The path begins
with the directory also if the name begins with slashes: these do not count (`pathIn`).

A search path is taken apart at its colons, each of which ends one directory and begins another, so
that the directories of a search path can be told from it and it from them
(`Path.directories_eq_iff`). A search path that is put together from two with a colon has the
directories of both, and a name is looked up in the second if it is not found in the first
(`findInPath_append`). Neither of them needs to have any directory but the empty one.
-/

namespace LineShell

/-! ## Directories of a search path -/

namespace Path

/-- The directories of a search path are those that give it when they are put together with colons,
if there is at least one and none of them has a colon. -/
theorem directories_eq_iff {searchPath : Bytes} {dirs : List Path} :
    directories searchPath = dirs ↔
      dirs ≠ [] ∧ (∀ dir ∈ dirs, colon ∉ dir) ∧ [colon].intercalate dirs = searchPath := by
  constructor
  · rintro rfl
    refine ⟨List.splitOn_ne_nil colon searchPath, ?_, List.intercalate_splitOn colon⟩
    intro dir hdir hcolon
    exact (mem_of_mem_splitOn hdir hcolon).1 rfl
  · rintro ⟨hne, hcolon, rfl⟩
    exact List.splitOn_intercalate colon hcolon hne

/-- The path of a name is absolute only if the name begins with a slash. -/
theorem not_isAbsolute_encode_cons {c : Char} (hc : c ≠ '/') (name : Text) :
    ¬ IsAbsolute (Utf8.encode (c :: name)) := by
  intro h
  obtain ⟨b, bytes, hchar⟩ := List.exists_cons_of_length_pos (Utf8.length_encodeChar_pos c)
  rw [IsAbsolute, Utf8.encode_cons, hchar, List.cons_append, List.head?_cons] at h
  obtain rfl : b = slash := Option.some.inj h
  have hslash : slash ∈ Utf8.encode [c] := by
    rw [Utf8.encode_cons, hchar]
    exact List.mem_cons_self
  have hname : '/' ∈ [c] := Utf8.mem_of_mem_encode (by decide) hslash
  exact hc (List.mem_singleton.1 hname).symm

/-- Slashes before a name are the same as characters and as bytes. -/
theorem relative_encode (name : Text) :
    relative (Utf8.encode name) = Utf8.encode (name.dropWhile (· = '/')) := by
  induction name with
  | nil => rfl
  | cons c name ih =>
    by_cases hc : c = '/'
    · have hslash : Utf8.encode ('/' :: name) = slash :: Utf8.encode name := rfl
      rw [hc, hslash, relative_cons_slash, ih]
      rfl
    · rw [List.dropWhile_cons_of_neg (by simpa using hc)]
      exact relative_of_not_isAbsolute (not_isAbsolute_encode_cons hc name)

end Path

/-! ## The paths of a name -/

/-- The path that a name has in a directory. Slashes before the name do not count. -/
def pathIn (dir : Path) (name : Text) : Path :=
  dir.join (Utf8.encode (name.dropWhile (· = '/')))

theorem join_relative_encode (dir : Path) (name : Text) :
    dir.join (Path.relative (Utf8.encode name)) = pathIn dir name := by
  rw [pathIn, Path.relative_encode]

/-- The path of a name in a directory begins with the directory. -/
theorem prefix_pathIn (dir : Path) (name : Text) : dir <+: pathIn dir name := by
  rw [← join_relative_encode]
  exact Path.prefix_join (Path.not_isAbsolute_relative _)

variable {isExecutable : Path → Bool} {name : Text} {searchPath : Bytes} {p : Path}

theorem findInPath_eq_find? (isExecutable : Path → Bool) (name : Text) (searchPath : Bytes) :
    findInPath isExecutable name searchPath
      = ((Path.directories searchPath).map (pathIn · name)).find? isExecutable := by
  rw [findInPath]
  simp only [join_relative_encode]

/-- A name is found at its path in the first directory where that can be executed. -/
theorem findInPath_eq_some_iff :
    findInPath isExecutable name searchPath = some p ↔
      ∃ (i : Nat) (dir : Path), (Path.directories searchPath)[i]? = some dir ∧
        p = pathIn dir name ∧ isExecutable p = true ∧
          ∀ j < i, ∀ other : Path, (Path.directories searchPath)[j]? = some other →
            isExecutable (pathIn other name) = false := by
  rw [findInPath_eq_find?, List.find?_eq_some_iff_getElem]
  constructor
  · rintro ⟨hp, i, hi, rfl, hbefore⟩
    rw [List.length_map] at hi
    rw [List.getElem_map] at hp ⊢
    refine ⟨i, _, List.getElem?_eq_getElem hi, rfl, hp, ?_⟩
    intro j hj other hother
    obtain ⟨hlt, rfl⟩ := List.getElem?_eq_some_iff.1 hother
    have hother := hbefore j hj
    rwa [List.getElem_map, Bool.not_eq_true'] at hother
  · rintro ⟨i, dir, hdir, rfl, hp, hbefore⟩
    obtain ⟨hi, rfl⟩ := List.getElem?_eq_some_iff.1 hdir
    refine ⟨hp, i, by rwa [List.length_map], List.getElem_map _, ?_⟩
    intro j hj
    rw [List.getElem_map, Bool.not_eq_true']
    exact hbefore j hj _ (List.getElem?_eq_getElem (Nat.lt_trans hj hi))

theorem findInPath_append (isExecutable : Path → Bool) (name : Text) (a b : Bytes) :
    findInPath isExecutable name (a ++ colon :: b)
      = (findInPath isExecutable name a).or (findInPath isExecutable name b) := by
  have hdirs : Path.directories (a ++ colon :: b) = Path.directories a ++ Path.directories b :=
    List.splitOn_append_cons_self a b
  rw [findInPath_eq_find?, findInPath_eq_find?, findInPath_eq_find?, hdirs, List.map_append,
    List.find?_append]

theorem findInPath_replicate_slash (isExecutable : Path → Bool) (k : Nat) (name : Text)
    (searchPath : Bytes) :
    findInPath isExecutable (List.replicate k '/' ++ name) searchPath
      = findInPath isExecutable name searchPath := by
  induction k with
  | zero => rfl
  | succ k ih =>
    rw [List.replicate_succ, List.cons_append, findInPath_cons_slash, ih]

namespace Machine

/-- Whether a path leads, links followed, to a regular file with an execute bit. -/
def HasExecutable (m : Machine) (p : Path) : Prop :=
  ∃ mode content, m.files.status m.location p = .ok (.file mode content) ∧ mode.IsExecutable

theorem isExecutable_iff_hasExecutable {m : Machine} :
    m.isExecutable p = true ↔ m.HasExecutable p :=
  FileSystem.isExecutable_iff

/-- **What is looked up in a search path.** The directories of a search path are what stands between
its colons, the empty ones too. A name is found at its path in the first of them where that leads to
an executable file. What is found begins with a directory of the search path, as slashes before the
name do not count. Of two search paths put together the second is asked where the first has nothing.
A builtin is not looked up; for any other name the search path is read once, and one that is not set
is empty. -/
theorem findInPath_firstDirectory (m : Machine) (name : Text) :
    (∀ searchPath dirs, Path.directories searchPath = dirs ↔
        dirs ≠ [] ∧ (∀ dir ∈ dirs, colon ∉ dir) ∧ [colon].intercalate dirs = searchPath) ∧
      (∀ searchPath p, findInPath m.isExecutable name searchPath = some p ↔
        ∃ (i : Nat) (dir : Path), (Path.directories searchPath)[i]? = some dir ∧
          p = dir.join (Utf8.encode (name.dropWhile (· = '/'))) ∧ m.HasExecutable p ∧
          ∀ j < i, ∀ other : Path, (Path.directories searchPath)[j]? = some other →
            ¬ m.HasExecutable (other.join (Utf8.encode (name.dropWhile (· = '/'))))) ∧
      (∀ searchPath, ∀ p ∈ findInPath m.isExecutable name searchPath,
        ∃ dir ∈ Path.directories searchPath, dir <+: p) ∧
      (∀ a b, findInPath m.isExecutable name (a ++ colon :: b)
        = (findInPath m.isExecutable name a).or (findInPath m.isExecutable name b)) ∧
      (∀ k searchPath, findInPath m.isExecutable (List.replicate k '/' ++ name) searchPath
        = findInPath m.isExecutable name searchPath) ∧
      (∀ b : Builtin, b.name = name → Command.ofName m.surroundings name = ⟨.builtin b, []⟩) ∧
      ((∀ b : Builtin, b.name ≠ name) → Command.ofName m.surroundings name
        = ⟨(findInPath m.isExecutable name (m.searchPath.getD [])).elim .notFound .external,
            [.searchPath]⟩) := by
  have hfound (searchPath : Bytes) (p : Path) :
      findInPath m.isExecutable name searchPath = some p ↔ _ := findInPath_eq_some_iff
  refine ⟨fun _ _ ↦ Path.directories_eq_iff, fun searchPath p ↦ ?_, fun searchPath p hp ↦ ?_,
    findInPath_append m.isExecutable name, fun k ↦ findInPath_replicate_slash m.isExecutable k name,
    ?_, fun hname ↦ ?_⟩
  · simp only [hfound, ← Bool.not_eq_true, isExecutable_iff_hasExecutable]
    rfl
  · obtain ⟨i, dir, hdir, rfl, -⟩ := (hfound searchPath p).1 hp
    exact ⟨dir, List.mem_of_getElem? hdir, prefix_pathIn dir name⟩
  · rintro b rfl
    exact Command.ofName_of_builtin m.surroundings b
  · exact Command.ofName_of_not_builtin (Builtin.ofName?_eq_none_iff.2 hname)

end Machine

end LineShell
