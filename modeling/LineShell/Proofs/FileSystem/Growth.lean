import LineShell.FileSystem.Write
import LineShell.Proofs.FileSystem.Locating

/-!
# File systems that grow

All that the shell does to files is to create some, with mode 644 and in the directories that are
there, and to write to some that it has found. A file system *grows* in this way if every place
keeps what stands there, up to the content of a file, or has a fresh file where there was nothing
(`Grows`).

Growing cannot be seen by those who look for directories or for something to run. A walk that
arrived at something arrives there still; one that found nothing may now come to a fresh file, and
that is neither entered nor executable. So what can be executed, and where one can go, stays as it
is (`Grows.isExecutable_eq`, `Grows.enter_eq_ok_iff`), whatever links and search paths lead to the
file.

## Walks in two file systems

Two walks of the same names, one in each file system, take the same steps until the first of them
meets a name that a directory does not have. If there is a fresh file now, the first walk ends with
the absent name and the second at that file; or, if there are more names, the first ends because
nothing is there and the second because a file is no directory. `WalkGrows` has one case for each,
and the induction is over the names up to a link, and then over the links.
-/

namespace LineShell.FileSystem

/-! ## Growing -/

/-- What may become of what stands at a place. -/
inductive EntryGrows : Option Node → Option Node → Prop where
  /-- It stays. -/
  | same (entry : Option Node) : EntryGrows entry entry
  /-- Where there was nothing, a file has been created. -/
  | created (bytes : Bytes) : EntryGrows none (some (.file .fresh (.data bytes)))
  /-- A file has been given another content. -/
  | rewritten (mode : Mode) (old : Content) (bytes : Bytes) :
    EntryGrows (some (.file mode old)) (some (.file mode (.data bytes)))

/-- Whether a file system has become another by creating files and writing to files. -/
def Grows (fs fs' : FileSystem) : Prop := ∀ p, EntryGrows (fs.node? p) (fs'.node? p)

/-- Whether there is a file at a place where there was nothing. -/
def Fresh (fs fs' : FileSystem) (p : Place) : Prop :=
  fs.node? p = none ∧ ∃ bytes, fs'.node? p = some (.file .fresh (.data bytes))

theorem EntryGrows.trans {a b c : Option Node} (h : EntryGrows a b) (h' : EntryGrows b c) :
    EntryGrows a c := by
  rcases h' with _ | ⟨bytes⟩ | ⟨mode, old, bytes⟩
  · exact h
  · cases h
    exact .created bytes
  · rcases h with _ | _ | ⟨_, old', _⟩
    · exact .rewritten mode old bytes
    · exact .created bytes
    · exact .rewritten mode old' bytes

theorem EntryGrows.eq_directory_iff {a b : Option Node} (h : EntryGrows a b) {mode : Mode} :
    b = some (.directory mode) ↔ a = some (.directory mode) := by
  rcases h with _ | _ | _ <;> simp

theorem EntryGrows.exists_file {b : Option Node} {mode : Mode} {content : Content}
    (h : EntryGrows (some (.file mode content)) b) :
    ∃ content', b = some (.file mode content') := by
  rcases h with _ | _ | ⟨_, _, bytes⟩
  · exact ⟨content, rfl⟩
  · exact ⟨.data bytes, rfl⟩

theorem EntryGrows.exists_file_or_fresh {a : Option Node} {mode : Mode} {content : Content}
    (h : EntryGrows a (some (.file mode content))) :
    (∃ content', a = some (.file mode content')) ∨ mode = .fresh := by
  rcases h with _ | _ | ⟨_, old, _⟩
  · exact .inl ⟨content, rfl⟩
  · exact .inr rfl
  · exact .inl ⟨old, rfl⟩

theorem Grows.refl (fs : FileSystem) : fs.Grows fs := fun p ↦ .same (fs.node? p)

theorem Grows.trans {fs fs' fs'' : FileSystem} (h : fs.Grows fs') (h' : fs'.Grows fs'') :
    fs.Grows fs'' := fun p ↦ (h p).trans (h' p)

variable {fs fs' : FileSystem} {purpose : Purpose} {l target : Location} {n : Name} {p : Path}

theorem grows_of_forall_ne {place : Place} (hplace : EntryGrows (fs.node? place) (fs'.node? place))
    (h : ∀ q, q ≠ place → fs'.node? q = fs.node? q) : fs.Grows fs' := by
  intro q
  by_cases hq : q = place
  · rwa [hq]
  · rw [h q hq]
    exact .same _

/-! ## Walking while files appear -/

theorem Grows.nodeAt?_eq_directory_iff (h : fs.Grows fs') {mode : Mode} :
    fs'.nodeAt? l = some (.directory mode) ↔ fs.nodeAt? l = some (.directory mode) := by
  rw [nodeAt?, nodeAt?]
  split
  · exact (h l.place).eq_directory_iff
  · rfl

theorem Grows.isDirectory_iff (h : fs.Grows fs') {p : Place} :
    fs'.IsDirectory p ↔ fs.IsDirectory p :=
  exists_congr fun _ ↦ (h p).eq_directory_iff

theorem Grows.isSearchable_iff (h : fs.Grows fs') {p : Place} :
    fs'.IsSearchable p ↔ fs.IsSearchable p :=
  exists_congr fun _ ↦ and_congr_left' (h p).eq_directory_iff

/-- Directories and their modes stay. -/
theorem Grows.isDirectoryAt_iff (h : fs.Grows fs') : fs'.IsDirectoryAt l ↔ fs.IsDirectoryAt l :=
  exists_congr fun _ ↦ h.nodeAt?_eq_directory_iff

theorem Grows.isSearchableAt_iff (h : fs.Grows fs') :
    fs'.IsSearchableAt l ↔ fs.IsSearchableAt l :=
  exists_congr fun _ ↦ and_congr_left' h.nodeAt?_eq_directory_iff

/-- A step leads where it led, or to a fresh file. -/
theorem Grows.step (h : fs.Grows fs') (l : Location) (n : Name) :
    fs'.step l n = fs.step l n ∨
      fs.step l n = .ok .absent ∧ Fresh fs fs' (l.place ++ [n]) ∧
        fs'.step l n = .ok (.inside (.ofPlace (l.place ++ [n]))) := by
  rw [FileSystem.step, FileSystem.step]
  simp only [h.isDirectoryAt_iff, h.isSearchableAt_iff]
  -- Only the last question is about what stands at the name.
  iterate 7
    split
    · exact .inl rfl
  have hentry := h (l.place ++ [n])
  rcases hold : fs.node? (l.place ++ [n]) with _ | old
  all_goals
    rcases hnew : fs'.node? (l.place ++ [n]) with _ | new
    all_goals rw [hold, hnew] at hentry
  · exact .inl rfl
  · rcases hentry with _ | ⟨bytes⟩
    exact .inr ⟨rfl, ⟨hold, bytes, hnew⟩, rfl⟩
  · cases hentry
  · rcases hentry with _ | _ | _ <;> exact .inl rfl

/-- What may become of where a walk arrives. -/
inductive WalkGrows (fs fs' : FileSystem) :
    Except SystemError Arrival → Except SystemError Arrival → Prop where
  /-- It stays. -/
  | same (result : Except SystemError Arrival) : WalkGrows fs fs' result result
  /-- At the absent name there is a fresh file. -/
  | created {dir : Location} {n : Name} (fresh : Fresh fs fs' (dir.place ++ [n])) :
    WalkGrows fs fs' (.ok (.absent dir n)) (.ok (.present (.ofPlace (dir.place ++ [n]))))
  /-- On the way there is a fresh file, which leads nowhere, as did nothing. -/
  | blocked : WalkGrows fs fs' (.error .noEntry) (.error .notDirectory)

theorem walkFrom_of_not_directory
    {follow : Location → Path → List Name → Except SystemError Arrival} {names : List Name}
    (h : ¬ fs.IsDirectoryAt l) (hnames : names ≠ []) :
    walkFrom fs purpose follow l names = .error .notDirectory := by
  obtain ⟨n, rest, rfl⟩ := List.exists_cons_of_ne_nil hnames
  have hstep : fs.step l n = .error .notDirectory := by rw [FileSystem.step, if_pos h]
  rw [walkFrom, slashFault, if_pos h, hstep, ite_self]

theorem Grows.walkFrom (h : fs.Grows fs')
    {follow follow' : Location → Path → List Name → Except SystemError Arrival}
    (hfollow : ∀ l target rest, WalkGrows fs fs' (follow l target rest) (follow' l target rest))
    (l : Location) (names : List Name) :
    WalkGrows fs fs' (FileSystem.walkFrom fs purpose follow l names)
      (FileSystem.walkFrom fs' purpose follow' l names) := by
  induction names generalizing l with
  | nil => exact .same _
  | cons n rest ih =>
    rw [FileSystem.walkFrom, FileSystem.walkFrom, slashFault, slashFault]
    simp only [h.isDirectoryAt_iff, h.isSearchableAt_iff]
    split
    · exact .same _
    · rcases h.step l n with hstep | ⟨hold, hfresh, hnew⟩
      · rw [hstep]
        rcases fs.step l n with e | ⟨next⟩ | ⟨target⟩ | _
        · exact .same _
        · exact ih next
        · exact hfollow l target rest
        · exact .same _
      · -- There was nothing here, and now there is a file, which only a last name may lead to.
        rw [hold, hnew]
        by_cases hrest : rest = []
        · subst hrest
          exact .created hfresh
        · have hfile : ¬ fs'.IsDirectoryAt (.ofPlace (l.place ++ [n])) := by
            obtain ⟨-, bytes, hbytes⟩ := hfresh
            exact not_isDirectoryAt_of_node? hbytes (by simp)
          simp only [if_neg hrest, walkFrom_of_not_directory hfile hrest]
          exact .blocked

theorem Grows.walk (h : fs.Grows fs') (purpose : Purpose) (links : Nat) (l : Location)
    (names : List Name) :
    WalkGrows fs fs' (fs.walk purpose links l names) (fs'.walk purpose links l names) := by
  induction links generalizing l names with
  | zero => exact h.walkFrom (fun _ _ _ ↦ .same _) l names
  | succ links ih => exact h.walkFrom (fun l target rest ↦ ih (l.start target) _) l names

/-! ## Looking while files appear -/

theorem Grows.locate (h : fs.Grows fs') (hp : fs.locate l p = .ok target) :
    fs'.locate l p = .ok target := by
  obtain ⟨hpath, hold⟩ := locate_eq_ok_iff.1 hp
  have hwalk := h.walk .find linkLimit (l.start p) p.steps
  rw [hold] at hwalk
  generalize hnew : fs'.walk .find linkLimit (l.start p) p.steps = new at hwalk
  cases hwalk
  exact locate_eq_ok_iff.2 ⟨hpath, hnew⟩

/-- What a path leads to it led to before, or it is a fresh file. -/
theorem Grows.locate_or_fresh (h : fs.Grows fs') (hp : fs'.locate l p = .ok target) :
    fs.locate l p = .ok target ∨ ∃ place, target = .ofPlace place ∧ Fresh fs fs' place := by
  obtain ⟨hpath, hnew⟩ := locate_eq_ok_iff.1 hp
  have hwalk := h.walk .find linkLimit (l.start p) p.steps
  rw [hnew] at hwalk
  generalize hold : fs.walk .find linkLimit (l.start p) p.steps = old at hwalk
  rcases hwalk with _ | hfresh | _
  · exact .inl (locate_eq_ok_iff.2 ⟨hpath, hold⟩)
  · exact .inr ⟨_, rfl, hfresh⟩

/-- **The same directories are entered.** -/
theorem Grows.enter_eq_ok_iff (h : fs.Grows fs') :
    fs'.enter l p = .ok target ↔ fs.enter l p = .ok target := by
  rw [FileSystem.enter_eq_ok_iff, FileSystem.enter_eq_ok_iff, h.isSearchableAt_iff]
  refine ⟨fun ⟨hp, hd⟩ ↦ ⟨?_, hd⟩, fun ⟨hp, hd⟩ ↦ ⟨h.locate hp, hd⟩⟩
  rcases h.locate_or_fresh hp with hp | ⟨place, rfl, hnone, -⟩
  · exact hp
  · obtain ⟨mode, hmode, -⟩ := hd
    exact absurd (hnone.symm.trans hmode) (by simp)

theorem Grows.enter_cases (h : fs.Grows fs') (l : Location) (p : Path) :
    (∃ target, fs.enter l p = .ok target ∧ fs'.enter l p = .ok target) ∨
      ∃ e e', fs.enter l p = .error e ∧ fs'.enter l p = .error e' := by
  rcases hold : fs.enter l p with e | target
  · rcases hnew : fs'.enter l p with e' | target
    · exact .inr ⟨e, e', rfl, rfl⟩
    · rw [h.enter_eq_ok_iff, hold] at hnew
      exact absurd hnew (by simp)
  · exact .inl ⟨target, rfl, h.enter_eq_ok_iff.2 hold⟩

/-- **The same files are executable.** -/
theorem Grows.isExecutable_eq (h : fs.Grows fs') (l : Location) (p : Path) :
    fs'.isExecutable l p = fs.isExecutable l p := by
  rw [Bool.eq_iff_iff, isExecutable_iff_exists_place, isExecutable_iff_exists_place]
  constructor
  · rintro ⟨place, mode, content, hp, hfile, hmode⟩
    have hentry := h place
    rw [hfile] at hentry
    -- A file that is executable is not fresh, so it was there before.
    rcases hentry.exists_file_or_fresh with ⟨content', hold⟩ | rfl
    · refine ⟨place, mode, content', ?_, hold, hmode⟩
      rcases h.locate_or_fresh hp with hp | ⟨q, hq, hnone, -⟩
      · exact hp
      · obtain rfl : place = q := congrArg Location.place hq
        exact absurd (hnone.symm.trans hold) (by simp)
    · exact absurd hmode (by decide)
  · rintro ⟨place, mode, content, hp, hfile, hmode⟩
    have hentry := h place
    rw [hfile] at hentry
    obtain ⟨content', hnew⟩ := hentry.exists_file
    exact ⟨place, mode, content', h.locate hp, hnew, hmode⟩

end LineShell.FileSystem
