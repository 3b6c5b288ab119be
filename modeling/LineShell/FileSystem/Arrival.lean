import LineShell.FileSystem.WellFormed
import LineShell.FileSystem.Write

/-!
# Where walks arrive

In a well-formed file system a walk never leaves the tree. It is always at something that is there,
or in what is left of a directory that is gone, and it ends there or at a name that a directory
could have and has not (`sound_arrive`). So whoever enters a directory stands in it
(`stands_of_enter`), a file that is created gets a proper name (`openToWrite`), and the path of what
is there leads to it, from wherever it is walked (`locate_path`).

## Standing in a directory that is gone

Such a directory is not there, but the first directory above it that has not been removed is, and
`..` leads there. A walk is kept in the tree by what is left of a place, not by the place.
-/

namespace LineShell

/-- What is left of the place of a location, without the names at its end that are gone. -/
def Location.remaining (l : Location) : Place := l.place.take (l.place.length - l.lost.length)

@[simp] theorem Location.remaining_ofPlace (p : Place) : (Location.ofPlace p).remaining = p := by
  simp [remaining, ofPlace]

theorem Location.remaining_of_lost_eq_nil {l : Location} (h : l.lost = []) :
    l.remaining = l.place := by
  simp [remaining, h]

theorem Location.remaining_up_of_lost_ne_nil {l : Location} (h : l.lost ≠ []) :
    l.up.remaining = l.remaining := by
  have hpos := List.length_pos_iff.2 h
  simp only [remaining, up, List.dropLast_eq_take, List.take_take, List.length_take,
    List.length_tail]
  congr 1
  omega

namespace FileSystem

/-! ## Locations and arrivals -/

/-- Whether somebody can stand at a location: what is left of it is a directory. -/
def Stands (fs : FileSystem) (l : Location) : Prop := fs.IsDirectory l.remaining

/-- Whether a walk may be at a location: something is left there, and it is a directory if not
everything is. -/
def Reached (fs : FileSystem) (l : Location) : Prop :=
  (fs.node? l.remaining).isSome ∧ (l.lost ≠ [] → fs.Stands l)

theorem Stands.reached {fs : FileSystem} {l : Location} (h : fs.Stands l) : fs.Reached l :=
  ⟨h.isSome, fun _ ↦ h⟩

/-- Whether a walk may arrive: at something reached, or at a name that a directory could have, and
has not. -/
def Arrival.Sound (fs : FileSystem) : Arrival → Prop
  | .present l => fs.Reached l
  | .absent dir n =>
    dir.lost = [] ∧ fs.Stands dir ∧ Path.IsName n ∧ fs.node? (dir.place ++ [n]) = none

/-! ## Steps -/

theorem nodeAt?_of_lost_eq_nil {fs : FileSystem} {l : Location} (h : l.lost = []) :
    fs.nodeAt? l = fs.node? l.place := by
  rw [nodeAt?, h]

theorem isDirectoryAt_of_lost_ne_nil {fs : FileSystem} {l : Location} (h : l.lost ≠ []) :
    fs.IsDirectoryAt l := by
  obtain ⟨mode, modes, hlost⟩ := List.exists_cons_of_ne_nil h
  exact ⟨mode, by rw [nodeAt?, hlost]⟩

theorem Reached.stands_of_isDirectoryAt {fs : FileSystem} {l : Location} (hl : fs.Reached l)
    (h : fs.IsDirectoryAt l) : fs.Stands l := by
  by_cases hlost : l.lost = []
  · obtain ⟨mode, hmode⟩ := h
    rw [nodeAt?_of_lost_eq_nil hlost] at hmode
    rw [Stands, Location.remaining_of_lost_eq_nil hlost]
    exact ⟨mode, hmode⟩
  · exact hl.2 hlost

theorem Reached.stands {fs : FileSystem} {l : Location} {n : Name} {next : Step}
    (hl : fs.Reached l) (h : fs.step l n = .ok next) : fs.Stands l := by
  by_cases hd : fs.IsDirectoryAt l
  · exact hl.stands_of_isDirectoryAt hd
  · rw [step, if_pos hd] at h
    exact absurd h (by simp)

theorem Stands.isDirectoryAt {fs : FileSystem} {l : Location} (hl : fs.Stands l) :
    fs.IsDirectoryAt l := by
  by_cases hlost : l.lost = []
  · rw [Stands, Location.remaining_of_lost_eq_nil hlost] at hl
    obtain ⟨mode, hmode⟩ := hl
    exact ⟨mode, by rw [nodeAt?_of_lost_eq_nil hlost, hmode]⟩
  · exact isDirectoryAt_of_lost_ne_nil hlost

theorem WellFormed.stands_up {fs : FileSystem} (hfs : fs.WellFormed) {l : Location}
    (hl : fs.Stands l) : fs.Stands l.up := by
  by_cases hlost : l.lost = []
  · rw [Stands, Location.remaining_of_lost_eq_nil (by simp [Location.up, hlost])]
    rw [Stands, Location.remaining_of_lost_eq_nil hlost] at hl
    exact hfs.parent _ hl.isSome
  · rwa [Stands, Location.remaining_up_of_lost_ne_nil hlost]

theorem WellFormed.reached_step {fs : FileSystem} (hfs : fs.WellFormed) {l next : Location}
    {n : Name} (hl : fs.Stands l) (h : fs.step l n = .ok (.inside next)) : fs.Reached next := by
  rw [step] at h
  repeat' split at h
  all_goals try cases h
  · exact hl.reached
  · exact hl.reached
  · exact (hfs.stands_up hl).reached
  · next hn => exact ⟨by simp [hn], fun h ↦ absurd rfl h⟩

theorem WellFormed.nul_not_mem_of_step {fs : FileSystem} (hfs : fs.WellFormed) {l : Location}
    {n : Name} {target : Path} (h : fs.step l n = .ok (.link target)) : nul ∉ target := by
  rw [step] at h
  repeat' split at h
  all_goals try cases h
  next h => exact hfs.isPath _ _ h

theorem Stands.sound_absent {fs : FileSystem} {l : Location} {n : Name} (hl : fs.Stands l)
    (hn : Path.IsBare n ∧ nul ∉ n) (h : fs.step l n = .ok .absent) :
    (Arrival.absent l n).Sound fs := by
  rw [step] at h
  repeat' split at h
  all_goals try cases h
  next hne _ hhere habove hlost hlen _ h =>
    exact ⟨Decidable.not_not.1 hlost, hl,
      ⟨⟨hne, hhere, habove⟩, hn.1, hn.2, Nat.not_lt.1 hlen⟩, h⟩

/-! ## Walks -/

/-- A walk up to the first link arrives soundly if it does so behind that link. -/
theorem WellFormed.sound_walkFrom {fs : FileSystem} (hfs : fs.WellFormed) {purpose : Purpose}
    {follow : Location → Path → List Name → Except SystemError Arrival} {arrival : Arrival}
    (hfollow : ∀ l target rest, fs.Stands l → nul ∉ target →
      (∀ n ∈ rest, Path.IsBare n ∧ nul ∉ n) → follow l target rest = .ok arrival →
      arrival.Sound fs)
    {l : Location} {names : List Name} (hl : fs.Reached l)
    (hnames : ∀ n ∈ names, Path.IsBare n ∧ nul ∉ n)
    (h : walkFrom fs purpose follow l names = .ok arrival) : arrival.Sound fs := by
  induction names generalizing l with
  | nil => exact Except.ok.inj h ▸ hl
  | cons n rest ih =>
    obtain ⟨hn, hrest⟩ := List.forall_mem_cons.1 hnames
    rw [walkFrom] at h
    split at h
    · exact absurd h (by simp)
    · split at h
      · exact absurd h (by simp)
      · next hs => exact ih (hfs.reached_step (hl.stands hs) hs) hrest h
      · next hs => exact hfollow _ _ _ (hl.stands hs) (hfs.nul_not_mem_of_step hs) hrest h
      · next hs =>
        split at h
        · exact Except.ok.inj h ▸ (hl.stands hs).sound_absent hn hs
        · exact absurd h (by simp)

theorem Stands.start {fs : FileSystem} {l : Location} (hl : fs.Stands l) (p : Path) :
    fs.Stands (l.start p) := by
  rw [Location.start]
  split
  · exact isDirectory_root fs
  · exact hl

theorem isBare_of_mem_steps {p : Path} (hp : nul ∉ p) {n : Name} (hn : n ∈ p.steps) :
    Path.IsBare n ∧ nul ∉ n :=
  ⟨fun h ↦ (Path.mem_of_mem_steps hn h).1 rfl, fun h ↦ hp (Path.mem_of_mem_steps hn h).2⟩

theorem WellFormed.sound_walk {fs : FileSystem} (hfs : fs.WellFormed) {purpose : Purpose}
    {links : Nat} {l : Location} {names : List Name} {arrival : Arrival} (hl : fs.Reached l)
    (hnames : ∀ n ∈ names, Path.IsBare n ∧ nul ∉ n)
    (h : fs.walk purpose links l names = .ok arrival) : arrival.Sound fs := by
  induction links generalizing l names with
  | zero =>
    rw [walk] at h
    exact hfs.sound_walkFrom (fun _ _ _ _ _ _ h ↦ absurd h (by simp)) hl hnames h
  | succ links ih =>
    rw [walk] at h
    refine hfs.sound_walkFrom (fun l target rest hl ht hr h ↦ ?_) hl hnames h
    refine ih (hl.start target).reached (fun n hn ↦ ?_) h
    rcases List.mem_append.1 hn with hn | hn
    · exact isBare_of_mem_steps ht hn
    · exact hr n hn

/-- A path is walked to a sound arrival. -/
theorem WellFormed.sound_arrive {fs : FileSystem} (hfs : fs.WellFormed) {purpose : Purpose}
    {l : Location} {p : Path} {arrival : Arrival} (hl : fs.Stands l)
    (h : fs.arrive purpose l p = .ok arrival) : arrival.Sound fs := by
  rw [arrive] at h
  split at h
  · cases h
  · next hp =>
    have hnul := (refusal?_eq_none_iff.1 hp).1
    cases hw : fs.walk purpose linkLimit (l.start p) p.steps with
    | error e => rw [hw] at h; cases h
    | ok arrived =>
      rw [hw] at h
      obtain rfl := Except.ok.inj h
      exact hfs.sound_walk (hl.start p).reached (fun n hn ↦ isBare_of_mem_steps hnul hn) hw

/-! ## Entering and writing -/

/-- Whoever enters a directory stands in it. -/
theorem WellFormed.stands_of_enter {fs : FileSystem} (hfs : fs.WellFormed) {l target : Location}
    {p : Path} (hl : fs.Stands l) (h : fs.enter l p = .ok target) : fs.Stands target := by
  have hd := (isSearchableAt_of_enter h).isDirectoryAt
  rw [enter, locate] at h
  split at h
  · cases h
  · next hloc =>
    split at hloc
    · cases hloc
    · next ha =>
      obtain rfl := Except.ok.inj hloc
      repeat' split at h
      all_goals try cases h
      exact Reached.stands_of_isDirectoryAt (hfs.sound_arrive hl ha) hd
    · cases hloc

theorem WellFormed.write {fs fs' : FileSystem} (hfs : fs.WellFormed) {handle : Handle}
    {bytes : Bytes} (h : fs.write handle bytes = .ok fs') : fs'.WellFormed := by
  match handle with
  | .file p =>
    obtain rfl := Except.ok.inj h
    rw [append]
    split
    · next hp => exact hfs.insert_of_file hp
    · exact hfs
  | .device .null => exact Except.ok.inj h ▸ hfs
  | .device .full =>
    rw [FileSystem.write] at h
    split at h
    · exact Except.ok.inj h ▸ hfs
    · cases h

theorem WellFormed.openToWrite {fs fs' : FileSystem} (hfs : fs.WellFormed) {l : Location}
    {p : Path} {handle : Handle} (hl : fs.Stands l)
    (h : fs.openToWrite l p = .ok (handle, fs')) : fs'.WellFormed := by
  rw [FileSystem.openToWrite] at h
  split at h
  · cases h
  · next arrival ha =>
    have hs := hfs.sound_arrive hl ha
    cases arrival with
    | absent dir n =>
      obtain ⟨hlost, hd, hn, hnew⟩ := hs
      rw [Stands, Location.remaining_of_lost_eq_nil hlost] at hd
      rw [openArrival] at h
      split at h
      · cases h
      · cases h
        exact hfs.insert hd hn (by simp [IsDirectory, hnew]) (by simp)
    | present l =>
      rw [openArrival] at h
      repeat' split at h
      · next hnode _ =>
        cases h
        by_cases hlost : l.lost = []
        · rw [nodeAt?_of_lost_eq_nil hlost] at hnode
          exact hfs.insert_of_file hnode
        · have hdirectory : fs.IsDirectoryAt l := isDirectoryAt_of_lost_ne_nil hlost
          obtain ⟨_, hdirectory⟩ := hdirectory
          cases hdirectory.symm.trans hnode
      · cases h
      · cases h
        exact hfs
      · cases h
      · cases h

/-! ## The path of a place -/

/-- Whether the directories above a place, up to the root, may all be searched. -/
def IsAccessible (fs : FileSystem) (p : Place) : Prop :=
  ∀ above, above <+: p → above ≠ p → fs.IsSearchable above

/-- A name in a directory that may be searched leads to what is there. -/
theorem WellFormed.step_ofPlace {fs : FileSystem} (hfs : fs.WellFormed) {dir : Place} {n : Name}
    {node : Node} (hdir : fs.IsSearchable dir) (h : fs.node? (dir ++ [n]) = some node)
    (hnode : ∀ target, node ≠ .link target) :
    fs.step (.ofPlace dir) n = .ok (.inside (.ofPlace (dir ++ [n]))) := by
  obtain ⟨⟨hne, hhere, habove⟩, -, -, hlen⟩ := hfs.isName dir n (by rw [h]; rfl)
  have hsearchable : fs.IsSearchableAt (.ofPlace dir) := hdir
  rw [step, if_neg (not_not_intro hsearchable.isDirectoryAt), if_neg hne,
    if_neg (not_not_intro hsearchable), if_neg hhere, if_neg habove,
    if_neg (by simp [Location.ofPlace]), if_neg (Nat.not_lt.2 hlen)]
  split
  · next hnone => exact absurd (hnone.symm.trans h) (by simp)
  · next target hlink => exact absurd (Option.some.inj (h.symm.trans hlink)) (hnode target)
  · rfl

/-- The names of what is there lead to it through directories that may be searched. -/
theorem WellFormed.walkFrom_ofPlace {fs : FileSystem} (hfs : fs.WellFormed)
    {follow : Location → Path → List Name → Except SystemError Arrival} {dir names : Place}
    {node : Node} (h : fs.node? (dir ++ names) = some node)
    (hnode : ∀ target, node ≠ .link target)
    (hopen : ∀ above, above <+: names → above ≠ names → fs.IsSearchable (dir ++ above)) :
    walkFrom fs .find follow (.ofPlace dir) names = .ok (.present (.ofPlace (dir ++ names))) := by
  induction names generalizing dir with
  | nil => rw [List.append_nil]; rfl
  | cons n names ih =>
    have hdir : fs.IsSearchable dir := by
      have hnil := hopen [] List.nil_prefix (List.cons_ne_nil n names).symm
      rwa [List.append_nil] at hnil
    rw [List.append_cons] at h
    have hn : ∃ m, fs.node? (dir ++ [n]) = some m ∧ ∀ target, m ≠ .link target := by
      by_cases hne : names = []
      · exact ⟨node, by simpa [hne] using h, hnode⟩
      · obtain ⟨mode, hmode⟩ := hfs.directory_of_append hne (by rw [h]; rfl)
        exact ⟨_, hmode, by simp⟩
    obtain ⟨m, hm, hlink⟩ := hn
    rw [List.append_cons dir n names, walkFrom, if_neg (by simp),
      hfs.step_ofPlace hdir hm hlink]
    refine ih h fun above habove hne ↦ ?_
    rw [List.append_assoc]
    exact hopen (n :: above) (List.cons_prefix_cons.2 ⟨rfl, habove⟩) (by simpa using hne)

/-- The path of a place, once taken apart, is the place. -/
theorem steps_path {p : Place} (h : ∀ n ∈ p, Path.IsName n) : p.path.steps = p := by
  by_cases hp : p = []
  · rw [hp]; rfl
  · rw [Place.path_of_ne_nil hp]
    exact Path.steps_flatMap fun n hn ↦ ⟨(h n hn).1.1, (h n hn).2.1⟩

/-- A path of names is walked from the root, whoever walks it. -/
theorem locate_path_eq {fs : FileSystem} {p : Place} (hname : ∀ n ∈ p, Path.IsName n)
    (hlen : p.path.length < pathLimit) (l : Location) :
    fs.locate l p.path = match fs.walk .find linkLimit (.ofPlace []) p with
      | .error e => .error (.system e)
      | .ok (.present target) => .ok target
      | .ok (.absent ..) => .error (.system .noEntry) := by
  have hnul : nul ∉ p.path := by
    intro hb
    by_cases hp : p = []
    · rw [hp] at hb; exact absurd hb (by decide)
    · rw [Place.path_of_ne_nil hp, List.mem_flatMap] at hb
      obtain ⟨n, hn, hb⟩ := hb
      rcases List.mem_cons.1 hb with hb | hb
      · exact absurd hb (by decide)
      · exact (hname n hn).2.2.1 hb
  have hstart : l.start p.path = .ofPlace [] := if_pos p.isAbsolute_path
  have hp : refusal? p.path = none :=
    refusal?_eq_none_iff.2 ⟨hnul, by cases p <;> simp [Place.path], hlen⟩
  rw [locate, arrive, hp, steps_path hname, hstart]
  rcases fs.walk .find linkLimit (.ofPlace []) p with e | ⟨target⟩ | _ <;> rfl

/-- The path of what is there leads to it, from wherever it is walked, through directories that may
be searched. -/
theorem WellFormed.locate_path {fs : FileSystem} (hfs : fs.WellFormed) {p : Place} {node : Node}
    (h : fs.node? p = some node) (hnode : ∀ target, node ≠ .link target)
    (hopen : fs.IsAccessible p) (hlen : p.path.length < pathLimit) (l : Location) :
    fs.locate l p.path = .ok (.ofPlace p) := by
  have hwalk : fs.walk .find linkLimit (.ofPlace []) p = .ok (.present (.ofPlace p)) :=
    hfs.walkFrom_ofPlace (by rwa [List.nil_append]) hnode hopen
  rw [locate_path_eq (fun n ↦ hfs.isName_of_mem (by rw [h]; rfl)) hlen, hwalk]

end FileSystem

end LineShell
