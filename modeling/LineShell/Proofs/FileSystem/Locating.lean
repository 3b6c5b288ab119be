import LineShell.FileSystem.Walk

/-!
# Where paths lead

A path leads somewhere if nothing refuses it and its walk arrives (`arrive_eq_ok_iff`), and it
leads to what is there if the walk arrives at something present (`locate_eq_ok_iff`). Looking at a
path, or entering it, is looking at the node of that location. A walk itself is a sequence of steps,
and each of them that leads anywhere is taken in a directory (`isDirectoryAt_of_step_eq_ok`), and by a
name in one that may be searched.
-/

namespace LineShell.FileSystem

variable {fs : FileSystem} {purpose : Purpose} {l target : Location} {n : Name} {p : Path}

/-! ## Steps -/

theorem isDirectoryAt_of_step_eq_ok {next : Step} (h : fs.step l n = .ok next) :
    fs.IsDirectoryAt l := by
  refine Decidable.not_not.1 fun hd ↦ ?_
  rw [step, if_pos hd] at h
  exact absurd h (by simp)

theorem isSearchableAt_of_step_eq_ok {next : Step} (h : fs.step l n = .ok next) (hn : n ≠ []) :
    fs.IsSearchableAt l := by
  refine Decidable.not_not.1 fun hs ↦ ?_
  rw [step, if_neg (not_not_intro (isDirectoryAt_of_step_eq_ok h)), if_neg hn, if_pos hs] at h
  exact absurd h (by simp)

theorem step_nil (h : fs.IsDirectoryAt l) : fs.step l [] = .ok (.inside l) := by
  rw [step, if_neg (not_not_intro h), if_pos rfl]

theorem step_here (h : fs.IsSearchableAt l) : fs.step l Path.here = .ok (.inside l) := by
  rw [step, if_neg (not_not_intro h.isDirectoryAt), if_neg (by decide),
    if_neg (not_not_intro h), if_pos rfl]

/-- No name is looked up in a directory that may not be searched. -/
theorem step_eq_denied (hd : fs.IsDirectoryAt l) (hs : ¬ fs.IsSearchableAt l) (hn : n ≠ []) :
    fs.step l n = .error .denied := by
  rw [step, if_neg (not_not_intro hd), if_neg hn, if_pos hs]

theorem length_le_of_step_eq_ok {next : Step} (h : fs.step l n = .ok next) :
    n.length ≤ nameLimit := by
  refine Nat.not_lt.1 fun hlen ↦ ?_
  have hne : n ≠ [] := by
    rintro rfl
    exact absurd hlen (by decide)
  have hstay : n ≠ Path.here := by
    rintro rfl
    exact absurd hlen (by decide)
  have hup : n ≠ Path.above := by
    rintro rfl
    exact absurd hlen (by decide)
  have hs := isSearchableAt_of_step_eq_ok h hne
  rw [step, if_neg (not_not_intro hs.isDirectoryAt), if_neg hne, if_neg (not_not_intro hs),
    if_neg hstay, if_neg hup, if_pos hlen] at h
  split at h <;> exact absurd h (by simp)

/-! ## Walks -/

theorem walk_find_cons {links : Nat} {names : List Name} {next : Location}
    (h : fs.step l n = .ok (.inside next)) :
    fs.walk .find links l (n :: names) = fs.walk .find links next names := by
  rcases links with _ | links <;> rw [walk, walkFrom, if_neg (by simp), h]

theorem exists_step_of_walk {links : Nat} {names : List Name} {arrival : Arrival}
    (h : fs.walk purpose links l (n :: names) = .ok arrival) :
    ∃ next, fs.step l n = .ok next := by
  rcases hs : fs.step l n with e | next
  · rcases links with _ | links
    all_goals
      rw [walk, walkFrom, hs] at h
      split at h <;> exact absurd h (by simp)
  · exact ⟨next, rfl⟩

/-! ## Paths -/

theorem arrive_eq_ok_iff {arrival : Arrival} :
    fs.arrive purpose l p = .ok arrival ↔
      refusal? p = none ∧ fs.walk purpose linkLimit (l.start p) p.steps = .ok arrival := by
  rw [arrive]
  rcases refusal? p with _ | cause
  · rcases fs.walk purpose linkLimit (l.start p) p.steps with e | a
    · constructor
      · intro h
        cases h
      · rintro ⟨-, h⟩
        cases h
    · constructor
      · intro h
        obtain rfl : a = arrival := Except.ok.inj h
        exact ⟨rfl, rfl⟩
      · rintro ⟨-, h⟩
        obtain rfl : a = arrival := Except.ok.inj h
        rfl
  · simp

theorem locate_eq_ok_iff :
    fs.locate l p = .ok target ↔
      refusal? p = none ∧ fs.walk .find linkLimit (l.start p) p.steps = .ok (.present target) := by
  rw [← arrive_eq_ok_iff, locate]
  rcases fs.arrive .find l p with e | ⟨t⟩ | ⟨d, n⟩ <;> simp

theorem status_eq_ok_iff {node : Node} :
    fs.status l p = .ok node ↔
      ∃ target, fs.locate l p = .ok target ∧ fs.nodeAt? target = some node := by
  rw [status]
  rcases fs.locate l p with e | t
  · simp
  · rcases ht : fs.nodeAt? t with _ | node' <;> simp [ht]

theorem enter_eq_ok_iff :
    fs.enter l p = .ok target ↔ fs.locate l p = .ok target ∧ fs.IsSearchableAt target := by
  constructor
  · intro h
    refine ⟨?_, isSearchableAt_of_enter h⟩
    rw [enter] at h
    repeat' split at h
    all_goals try cases h
    assumption
  · rintro ⟨hp, hs⟩
    rw [enter, hp]
    change (if _ then _ else _) = _
    rw [if_neg (not_not_intro hs.isDirectoryAt), if_neg (not_not_intro hs)]

/-- A directory that may not be searched is not entered. -/
theorem enter_eq_denied (hp : fs.locate l p = .ok target) (hd : fs.IsDirectoryAt target)
    (hs : ¬ fs.IsSearchableAt target) : fs.enter l p = .error (.system .denied) := by
  rw [enter, hp]
  change (if _ then _ else _) = _
  rw [if_neg (not_not_intro hd), if_pos hs]

/-- What is no directory is there, and stands at a place. -/
theorem nodeAt?_eq_some_iff {node : Node} (hnode : ∀ mode, node ≠ .directory mode) :
    fs.nodeAt? target = some node ↔
      ∃ place, target = .ofPlace place ∧ fs.node? place = some node := by
  rcases target with ⟨place, _ | ⟨mode, modes⟩⟩
  · constructor
    · exact fun h ↦ ⟨place, rfl, h⟩
    · rintro ⟨q, hq, h⟩
      obtain rfl : place = q := congrArg Location.place hq
      exact h
  · constructor
    · exact fun hd ↦ absurd (Option.some.inj hd).symm (hnode mode)
    · rintro ⟨q, hq, -⟩
      exact absurd (congrArg Location.lost hq) (List.cons_ne_nil mode modes)

theorem not_isDirectoryAt_of_node? {place : Place} {node : Node} (h : fs.node? place = some node)
    (hnode : ∀ mode, node ≠ .directory mode) : ¬ fs.IsDirectoryAt (.ofPlace place) := by
  rintro ⟨mode, hmode⟩
  exact hnode mode (Option.some.inj (h.symm.trans hmode))

theorem isExecutable_iff_exists_place :
    fs.isExecutable l p = true ↔ ∃ place mode content, fs.locate l p = .ok (.ofPlace place) ∧
      fs.node? place = some (.file mode content) ∧ mode.IsExecutable := by
  rw [isExecutable_iff]
  constructor
  · rintro ⟨mode, content, hstatus, hmode⟩
    obtain ⟨target, hp, hnode⟩ := status_eq_ok_iff.1 hstatus
    obtain ⟨place, rfl, hplace⟩ := (nodeAt?_eq_some_iff (by simp)).1 hnode
    exact ⟨place, mode, content, hp, hplace, hmode⟩
  · rintro ⟨place, mode, content, hp, hplace, hmode⟩
    exact ⟨mode, content, status_eq_ok_iff.2 ⟨_, hp, hplace⟩, hmode⟩

/-- Where somebody stands does not matter for what an absolute path leads to. -/
theorem locate_of_isAbsolute (hp : p.IsAbsolute) (l l' : Location) :
    fs.locate l p = fs.locate l' p := by
  have hstart : l.start p = l'.start p := (if_pos hp).trans (if_pos hp).symm
  rw [locate, locate, arrive, arrive, hstart]

theorem isExecutable_of_isAbsolute (hp : p.IsAbsolute) (l l' : Location) :
    fs.isExecutable l p = fs.isExecutable l' p := by
  rw [isExecutable, isExecutable, status, status, locate_of_isAbsolute hp l l']

theorem enter_of_isAbsolute (hp : p.IsAbsolute) (l l' : Location) :
    fs.enter l p = fs.enter l' p := by
  rw [enter, enter, locate_of_isAbsolute hp l l']

end LineShell.FileSystem
