import LineShell.Proofs.FileSystem.Growth

/-!
# What has been opened

Opening a path to write settles two things at once: a file at some place, empty now, and that the
path leads to it (`opens_of_openToWrite`). The second is not plain if the file was not there before.
The walk that looked for a place to create it then found an absent name; the walk that looks for the
file takes the same steps, with the same links, and finds it.

What is written afterwards is the content of that file, and no other place has anything to do with
it (`Filled`). Opening and writing together change the one file that the path now leads to
(`Rewrites`).
-/

namespace LineShell.FileSystem

variable {fs fs' : FileSystem} {purpose : Purpose} {l dir : Location} {n : Name} {p : Path}
  {place : Place}

/-! ## Walks that arrive at nothing -/

theorem node?_of_step_absent (h : fs.step l n = .ok .absent) :
    fs.node? (l.place ++ [n]) = none := by
  rw [step] at h
  repeat' split at h
  all_goals try cases h
  next h => exact h

theorem walkFrom_absent {follow : Location → Path → List Name → Except SystemError Arrival}
    (hfollow : ∀ l target rest, follow l target rest = .ok (.absent dir n) →
      fs.node? (dir.place ++ [n]) = none)
    {names : List Name} (h : walkFrom fs purpose follow l names = .ok (.absent dir n)) :
    fs.node? (dir.place ++ [n]) = none := by
  induction names generalizing l with
  | nil => exact absurd h (by simp [walkFrom])
  | cons m rest ih =>
    rw [walkFrom] at h
    split at h
    · exact absurd h (by simp)
    · split at h
      · exact absurd h (by simp)
      · exact ih h
      · exact hfollow _ _ _ h
      · next habsent =>
        split at h
        · obtain ⟨rfl, rfl⟩ : l = dir ∧ m = n := by simpa using h
          exact node?_of_step_absent habsent
        · exact absurd h (by simp)

/-- A walk does not arrive at an absent name that is there. -/
theorem walk_absent {links : Nat} {names : List Name}
    (h : fs.walk purpose links l names = .ok (.absent dir n)) :
    fs.node? (dir.place ++ [n]) = none := by
  induction links generalizing l names with
  | zero => exact walkFrom_absent (fun _ _ _ h ↦ absurd h (by simp)) h
  | succ links ih => exact walkFrom_absent (fun _ _ _ h ↦ ih h) h

/-! ## Walks for both purposes -/

theorem walkFrom_find {follow follow' : Location → Path → List Name → Except SystemError Arrival}
    {arrival : Arrival}
    (hfollow : ∀ l target rest, follow l target rest = .ok arrival →
      follow' l target rest = .ok arrival)
    {names : List Name} (h : walkFrom fs purpose follow l names = .ok arrival) :
    walkFrom fs .find follow' l names = .ok arrival := by
  induction names generalizing l with
  | nil => exact h
  | cons m rest ih =>
    rw [walkFrom] at h ⊢
    rw [if_neg (by simp)]
    split at h
    · exact absurd h (by simp)
    · rcases hstep : fs.step l m with e | ⟨next⟩ | ⟨target⟩ | _
      all_goals rw [hstep] at h
      · exact absurd h (by simp)
      · exact ih h
      · exact hfollow l target rest h
      · exact h

/-- Where a walk for a new file arrives, a walk to find one does. -/
theorem walk_find {links : Nat} {names : List Name} {arrival : Arrival}
    (h : fs.walk purpose links l names = .ok arrival) :
    fs.walk .find links l names = .ok arrival := by
  induction links generalizing l names with
  | zero => exact walkFrom_find (fun _ _ _ h ↦ h) h
  | succ links ih => exact walkFrom_find (fun _ _ _ h ↦ ih h) h

theorem arrive_find {arrival : Arrival} (h : fs.arrive purpose l p = .ok arrival) :
    fs.arrive .find l p = .ok arrival := by
  obtain ⟨hpath, hwalk⟩ := arrive_eq_ok_iff.1 h
  exact arrive_eq_ok_iff.2 ⟨hpath, walk_find hwalk⟩

/-! ## Arriving while files appear -/

theorem Grows.arrive_present {target : Location} (h : fs.Grows fs')
    (harrive : fs.arrive purpose l p = .ok (.present target)) :
    fs'.arrive purpose l p = .ok (.present target) := by
  obtain ⟨hpath, hold⟩ := arrive_eq_ok_iff.1 harrive
  have hwalk := h.walk purpose linkLimit (l.start p) p.steps
  rw [hold] at hwalk
  generalize hnew : fs'.walk purpose linkLimit (l.start p) p.steps = new at hwalk
  rcases hwalk with _ | _ | _
  exact arrive_eq_ok_iff.2 ⟨hpath, hnew⟩

/-- Where something now stands at the absent name, a walk arrives at it. -/
theorem Grows.arrive_absent (h : fs.Grows fs')
    (harrive : fs.arrive purpose l p = .ok (.absent dir n))
    (hthere : fs'.node? (dir.place ++ [n]) ≠ none) :
    fs'.arrive purpose l p = .ok (.present (.ofPlace (dir.place ++ [n]))) := by
  obtain ⟨hpath, hold⟩ := arrive_eq_ok_iff.1 harrive
  have hwalk := h.walk purpose linkLimit (l.start p) p.steps
  rw [hold] at hwalk
  generalize hnew : fs'.walk purpose linkLimit (l.start p) p.steps = new at hwalk
  rcases hwalk with _ | _ | _
  · exact absurd (walk_absent hnew) hthere
  · exact arrive_eq_ok_iff.2 ⟨hpath, hnew⟩

/-! ## Opening -/

/-- What is known of a file that has been opened to write by a path. -/
structure Opens (fs : FileSystem) (l : Location) (p : Path) (place : Place) (fs' : FileSystem) :
    Prop where
  /-- It is not the root. -/
  ne_nil : place ≠ []
  /-- It is a file without content. -/
  node : ∃ mode, fs'.node? place = some (.file mode (.data []))
  /-- It was a file, or there was nothing. -/
  entry : EntryGrows (fs.node? place) (fs'.node? place)
  /-- All other places are as they were. -/
  others : ∀ q, q ≠ place → fs'.node? q = fs.node? q
  /-- The path leads to it. -/
  leads : fs'.locate l p = .ok (.ofPlace place)

theorem Opens.grows (h : fs.Opens l p place fs') : fs.Grows fs' :=
  grows_of_forall_ne h.entry h.others

/-- Emptying a file, or creating it, changes its place and lets the file system grow. -/
theorem opens_insert (hp : place ≠ []) {mode : Mode}
    (hentry : EntryGrows (fs.node? place) (some (.file mode (.data []))))
    (hleads : fs.Grows (fs.insert place (.file mode (.data []))) →
      (fs.insert place (.file mode (.data []))).locate l p = .ok (.ofPlace place)) :
    fs.Opens l p place (fs.insert place (.file mode (.data []))) := by
  have hnode : (fs.insert place (.file mode (.data []))).node? place
      = some (.file mode (.data [])) := by
    rw [node?_insert fs hp, if_pos rfl]
  have hothers : ∀ q, q ≠ place →
      (fs.insert place (.file mode (.data []))).node? q = fs.node? q := by
    intro q hq
    rw [node?_insert fs hp, if_neg hq]
  rw [← hnode] at hentry
  exact ⟨hp, ⟨mode, hnode⟩, hentry, hothers, hleads (grows_of_forall_ne hentry hothers)⟩

/-- A file that has been opened was there and has been emptied, or nothing was there and it has been
created. -/
theorem openToWrite_file_cases (h : fs.openToWrite l p = .ok (.file place, fs')) :
    ∃ mode : Mode, mode.AllowsWriting ∧ place ≠ [] ∧
      fs' = fs.insert place (.file mode (.data [])) ∧
      ((∃ content, fs.arrive .create l p = .ok (.present (.ofPlace place)) ∧
          fs.node? place = some (.file mode content)) ∨
        mode = .fresh ∧ ∃ dir n, place = dir.place ++ [n] ∧
          fs.arrive .create l p = .ok (.absent dir n)) := by
  rw [openToWrite] at h
  rcases harrive : fs.arrive .create l p with e | ⟨target⟩ | ⟨dir, n⟩
  all_goals
    rw [harrive] at h
  · exact absurd h (by simp)
  · have h : fs.openArrival (.present target) = .ok (.file place, fs') := h
    rw [openArrival] at h
    rcases hnode : fs.nodeAt? target with _ | ⟨_⟩ | ⟨mode, content⟩ | _ | _
    all_goals
      rw [hnode] at h
      try cases h
    obtain ⟨q, rfl, hq⟩ := (nodeAt?_eq_some_iff (by simp)).1 hnode
    have hwrite : mode.AllowsWriting := by
      refine Decidable.not_not.1 fun hno ↦ ?_
      exact absurd h (by simp [hno])
    obtain ⟨rfl, rfl⟩ : q = place ∧ fs.insert q (.file mode (.data [])) = fs' := by
      simpa [hwrite, Location.ofPlace] using h
    have hne : q ≠ [] := by
      rintro rfl
      exact absurd hq (by simp)
    exact ⟨mode, hwrite, hne, rfl, .inl ⟨content, rfl, hq⟩⟩
  · have h : fs.openArrival (.absent dir n) = .ok (.file place, fs') := h
    rw [openArrival] at h
    split at h
    · exact absurd h (by simp)
    obtain ⟨rfl, rfl⟩ : dir.place ++ [n] = place ∧
        fs.insert (dir.place ++ [n]) (.file .fresh (.data [])) = fs' := by
      simpa using h
    exact ⟨.fresh, by decide, by simp, rfl, .inr ⟨rfl, dir, n, rfl, rfl⟩⟩

/-- **Whoever has opened a file by a path finds it there.** -/
theorem opens_of_openToWrite (h : fs.openToWrite l p = .ok (.file place, fs')) :
    fs.Opens l p place fs' := by
  obtain ⟨mode, -, hne, rfl, ⟨content, harrive, hnode⟩ | ⟨rfl, dir, n, rfl, harrive⟩⟩ :=
    openToWrite_file_cases h
  · -- The file was there, and is found as before.
    have hlocate : fs.locate l p = .ok (.ofPlace place) :=
      locate_eq_ok_iff.2 (arrive_eq_ok_iff.1 (arrive_find harrive))
    refine opens_insert hne ?_ fun hgrows ↦ hgrows.locate hlocate
    rw [hnode]
    exact .rewritten mode content []
  · -- Nothing was there, and the walk that found nothing comes to the new file.
    refine opens_insert hne ?_ fun hgrows ↦ ?_
    · rw [walk_absent (arrive_eq_ok_iff.1 harrive).2]
      exact .created []
    · have hthere : (fs.insert (dir.place ++ [n]) (.file .fresh (.data []))).node?
          (dir.place ++ [n]) ≠ none := by
        rw [node?_insert fs hne, if_pos rfl]
        exact Option.some_ne_none _
      exact locate_eq_ok_iff.2
        (arrive_eq_ok_iff.1 (hgrows.arrive_absent (arrive_find harrive) hthere))

/-- Opening a device changes no file. -/
theorem eq_of_openToWrite_device {kind : Device}
    (h : fs.openToWrite l p = .ok (.device kind, fs')) : fs' = fs := by
  rw [openToWrite] at h
  rcases harrive : fs.arrive .create l p with e | ⟨target⟩ | ⟨dir, n⟩
  all_goals
    rw [harrive] at h
  · exact absurd h (by simp)
  · have h : fs.openArrival (.present target) = .ok (.device kind, fs') := h
    rw [openArrival] at h
    repeat' split at h
    all_goals cases h
    rfl
  · have h : fs.openArrival (.absent dir n) = .ok (.device kind, fs') := h
    rw [openArrival] at h
    split at h <;> cases h

theorem grows_of_openToWrite {handle : Handle} (h : fs.openToWrite l p = .ok (handle, fs')) :
    fs.Grows fs' := by
  cases handle with
  | file place => exact (opens_of_openToWrite h).grows
  | device kind =>
    rw [eq_of_openToWrite_device h]
    exact Grows.refl fs

/-! ## Writing -/

/-- What becomes of a file system when some bytes are written to an empty file. -/
structure Filled (fs : FileSystem) (place : Place) (bytes : Bytes) (fs' : FileSystem) : Prop where
  /-- The bytes are the content of the file, and its mode stays. -/
  node : ∃ mode, fs.node? place = some (.file mode (.data [])) ∧
    fs'.node? place = some (.file mode (.data bytes))
  /-- All other places are as they were. -/
  others : ∀ q, q ≠ place → fs'.node? q = fs.node? q

theorem Filled.grows {bytes : Bytes} (h : fs.Filled place bytes fs') : fs.Grows fs' := by
  obtain ⟨mode, hold, hnew⟩ := h.node
  refine grows_of_forall_ne ?_ h.others
  rw [hold, hnew]
  exact .rewritten mode (.data []) bytes

theorem Opens.filled_nil (h : fs.Opens l p place fs') : fs'.Filled place [] fs' := by
  obtain ⟨mode, hnode⟩ := h.node
  exact ⟨⟨mode, hnode, hnode⟩, fun _ _ ↦ rfl⟩

/-- What is written next goes behind what was written before. -/
theorem Filled.append {bytes : Bytes} (h : fs.Filled place bytes fs') (hne : place ≠ [])
    (more : Bytes) : fs.Filled place (bytes ++ more) (fs'.append place more) := by
  obtain ⟨mode, hold, hnew⟩ := h.node
  have happend := node?_append hne hnew more
  refine ⟨⟨mode, hold, ?_⟩, fun q hq ↦ ?_⟩
  · rw [happend, if_pos rfl]
  · rw [happend, if_neg hq, h.others q hq]

theorem Opens.filled_append (h : fs.Opens l p place fs') (bytes : Bytes) :
    fs'.Filled place bytes (fs'.append place bytes) :=
  h.filled_nil.append h.ne_nil bytes

/-- Writing to a device changes no file. -/
theorem eq_of_write_device {kind : Device} {bytes : Bytes}
    (h : fs.write (.device kind) bytes = .ok fs') : fs' = fs := by
  cases kind with
  | null => exact (Except.ok.inj h).symm
  | full =>
    rw [write] at h
    split at h
    · exact (Except.ok.inj h).symm
    · exact absurd h (by simp)

/-! ## Opening and writing -/

/-- Whether a file system has become another by what is written to the file at a place, to which a
path then leads. -/
structure Rewrites (fs : FileSystem) (l : Location) (p : Path) (place : Place) (fs' : FileSystem) :
    Prop where
  /-- It is a file that holds what was written. -/
  node : ∃ mode bytes, fs'.node? place = some (.file mode (.data bytes))
  /-- It was a file, or there was nothing. -/
  entry : EntryGrows (fs.node? place) (fs'.node? place)
  /-- All other places are as they were. -/
  others : ∀ q, q ≠ place → fs'.node? q = fs.node? q
  /-- The path leads to it. -/
  leads : fs'.locate l p = .ok (.ofPlace place)

theorem Opens.rewrites {fs'' : FileSystem} {bytes : Bytes} (h : fs.Opens l p place fs')
    (hfilled : fs'.Filled place bytes fs'') : fs.Rewrites l p place fs'' := by
  obtain ⟨mode, -, hnode⟩ := hfilled.node
  refine ⟨⟨mode, bytes, hnode⟩, h.entry.trans (hfilled.grows place), ?_, ?_⟩
  · intro q hq
    rw [hfilled.others q hq, h.others q hq]
  · exact hfilled.grows.locate h.leads

theorem Rewrites.grows (h : fs.Rewrites l p place fs') : fs.Grows fs' :=
  grows_of_forall_ne h.entry h.others

end LineShell.FileSystem
