import LineShell.FileSystem.Arrival
import LineShell.Proofs.FileSystem.ExplicitPath

/-!
# Entries that are found and entries that are listed

There are two ways to ask a directory for a name: to put the name behind its path and to walk that,
or to walk the path and to list what is there. Whoever finds an executable file in the first way
finds its name in the second, if the directory may be read (`mem_list_of_isExecutable_join`).

The two paths differ by one step, and their walks by no more. A walk to the longer one passes where
the walk to the shorter one arrives (`exists_walk_of_walk_append`), with the links on the way
followed alike, and takes its last step in the directory that is listed there. That a path to a
directory may end in a slash, and its walk in one more step that stays where it is, changes nothing
(`walk_append_nil`).

## Names that are no entries

The last step can lead to something without being an entry, if it stays or goes up. It then leads to
a directory and to no file. For going up this is what a tree is needed for.
-/

namespace LineShell

namespace Path

/-- The names of a path in order, without an empty one at its end. -/
def names (p : Path) : List Name := (p.splitOn slash).filter (· ≠ [])

theorem steps_eq_names_or (p : Path) : p.steps = p.names ∨ p.steps = p.names ++ [[]] := by
  rw [steps, names]
  split
  · exact .inr rfl
  · exact .inl rfl

theorem names_append_cons_slash (p : Path) {n : Name} (hbare : IsBare n) (hn : n ≠ []) :
    (p ++ slash :: n).names = p.names ++ [n] := by
  rw [names, List.splitOn_append_cons_self, List.filter_append, List.splitOn_eq_singleton hbare,
    List.filter_cons_of_pos (by simpa using hn)]
  rfl

theorem names_append_slash (p : Path) : (p ++ [slash]).names = p.names := by
  rw [names, List.splitOn_append_cons_self, List.filter_append]
  exact List.append_nil _

variable {dir : Path} {n : Name}

theorem join_of_isBare (hdir : dir ≠ []) (hbare : IsBare n) :
    dir.join n = if dir.EndsInSlash then dir ++ n else dir ++ slash :: n := by
  rw [join, if_neg (not_isAbsolute_of_isBare hbare)]
  by_cases hslash : dir.EndsInSlash
  · rw [if_pos hslash, if_pos (.inr hslash)]
  · rw [if_neg hslash]
    exact if_neg (not_or_intro hdir hslash)

theorem getLast?_join (hdir : dir ≠ []) (hbare : IsBare n) (hn : n ≠ []) :
    (dir.join n).getLast? = n.getLast? := by
  rw [join_of_isBare hdir hbare, List.getLast?_eq_some_getLast hn]
  split
  · rw [List.getLast?_append, List.getLast?_eq_some_getLast hn, Option.some_or]
  · rw [List.getLast?_append, List.getLast?_cons_of_ne_nil hn, List.getLast?_eq_some_getLast hn,
      Option.some_or]

/-- A name that is put behind a path is one more step. -/
theorem steps_join (hdir : dir ≠ []) (hbare : IsBare n) (hn : n ≠ []) :
    (dir.join n).steps = dir.names ++ [n] := by
  have hlast : (dir.join n).getLast? ≠ some slash := by
    rw [getLast?_join hdir hbare hn]
    exact getLast?_ne_slash_of_isBare hbare
  have hsteps : (dir.join n).steps = (dir.join n).names := if_neg fun h ↦ hlast h.2
  rw [hsteps, join_of_isBare hdir hbare]
  split
  · next hslash =>
    obtain ⟨init, rfl⟩ := List.getLast?_eq_some_iff.1 hslash
    rw [List.append_assoc, List.singleton_append, names_append_cons_slash init hbare hn,
      names_append_slash]
  · exact names_append_cons_slash dir hbare hn

theorem isAbsolute_join_iff (hdir : dir ≠ []) (hbare : IsBare n) :
    (dir.join n).IsAbsolute ↔ dir.IsAbsolute := by
  obtain ⟨rest, hrest⟩ : dir <+: dir.join n := prefix_join (not_isAbsolute_of_isBare hbare)
  obtain ⟨b, tail, rfl⟩ := List.exists_cons_of_ne_nil hdir
  rw [← hrest]
  exact Iff.rfl

end Path

namespace FileSystem

variable {fs : FileSystem} {l next target : Location} {names rest : List Name} {arrival : Arrival}
  {links : Nat} {dir : Path} {n : Name}

/-- Where nothing is refused, nothing before it is. -/
theorem refusal?_of_prefix {p q : Path} (hpq : p <+: q) (hp : p ≠ []) (h : refusal? q = none) :
    refusal? p = none := by
  obtain ⟨hnul, -, hlen⟩ := refusal?_eq_none_iff.1 h
  exact refusal?_eq_none_iff.2
    ⟨fun hmem ↦ hnul (hpq.subset hmem), hp, Nat.lt_of_le_of_lt hpq.length_le hlen⟩

/-! ## Walks with names behind them -/

section WalkFrom

variable {follow : Location → Path → List Name → Except SystemError Arrival}

theorem exists_walkFrom_of_append {Goal : Location → Prop} (hrest : rest ≠ [])
    (hend : ∀ l, walkFrom fs .find follow l rest = .ok arrival → Goal l)
    (hfollow : ∀ l target names, follow l target (names ++ rest) = .ok arrival →
      ∃ next, follow l target names = .ok (.present next) ∧ Goal next)
    (h : walkFrom fs .find follow l (names ++ rest) = .ok arrival) :
    ∃ next, walkFrom fs .find follow l names = .ok (.present next) ∧ Goal next := by
  induction names generalizing l with
  | nil => exact ⟨l, rfl, hend l h⟩
  | cons m names ih =>
    rw [List.cons_append, walkFrom, if_neg (by simp)] at h
    rw [walkFrom, if_neg (by simp)]
    rcases hstep : fs.step l m with e | ⟨inner⟩ | ⟨path⟩ | _
    all_goals
      rw [hstep] at h
    · exact absurd h (by simp)
    · exact ih h
    · exact hfollow l path names h
    · -- Nothing is walked from an absent name, and there are names left.
      have hne : names ++ rest ≠ [] := List.append_ne_nil_of_right_ne_nil names hrest
      exact absurd h (by simp [hne])

theorem walkFrom_append_nil (hnext : fs.IsDirectoryAt next)
    (hfollow : ∀ l target names, follow l target names = .ok (.present next) →
      follow l target (names ++ [[]]) = .ok (.present next))
    (h : walkFrom fs .find follow l names = .ok (.present next)) :
    walkFrom fs .find follow l (names ++ [[]]) = .ok (.present next) := by
  induction names generalizing l with
  | nil =>
    obtain rfl : l = next := Arrival.present.inj (Except.ok.inj h)
    rw [List.nil_append, walkFrom, if_neg (by simp), step_nil hnext]
    rfl
  | cons m names ih =>
    rw [walkFrom, if_neg (by simp)] at h
    rw [List.cons_append, walkFrom, if_neg (by simp)]
    rcases hstep : fs.step l m with e | ⟨inner⟩ | ⟨path⟩ | _
    all_goals
      rw [hstep] at h
    · exact absurd h (by simp)
    · exact ih h
    · exact hfollow l path names h
    · by_cases hnames : names = [] <;> exact absurd h (by simp [hnames])

end WalkFrom

/-- A walk passes where a walk of its first names arrives, and goes on from there. -/
theorem exists_walk_of_walk_append (hrest : rest ≠ [])
    (h : fs.walk .find links l (names ++ rest) = .ok arrival) :
    ∃ next, fs.walk .find links l names = .ok (.present next) ∧
      ∃ left, fs.walk .find left next rest = .ok arrival := by
  induction links generalizing l names with
  | zero =>
    refine exists_walkFrom_of_append hrest (fun l h ↦ ⟨0, h⟩) ?_ h
    exact fun _ _ _ h ↦ absurd h (by simp)
  | succ links ih =>
    refine exists_walkFrom_of_append hrest (fun l h ↦ ⟨links + 1, h⟩) ?_ h
    intro l target names h
    rw [← List.append_assoc] at h
    exact ih h

/-- A slash at the end makes no difference for a directory. -/
theorem walk_append_nil (hnext : fs.IsDirectoryAt next)
    (h : fs.walk .find links l names = .ok (.present next)) :
    fs.walk .find links l (names ++ [[]]) = .ok (.present next) := by
  induction links generalizing l names with
  | zero => exact walkFrom_append_nil hnext (fun _ _ _ h ↦ absurd h (by simp)) h
  | succ links ih =>
    refine walkFrom_append_nil hnext ?_ h
    intro l target names h
    rw [← List.append_assoc]
    exact ih h

/-- A directory that the names of a path lead to is found by the path. -/
theorem walk_steps (hnext : fs.IsDirectoryAt next)
    (h : fs.walk .find links l dir.names = .ok (.present next)) :
    fs.walk .find links l dir.steps = .ok (.present next) := by
  rcases Path.steps_eq_names_or dir with hsteps | hsteps
  · rwa [hsteps]
  · rw [hsteps]
    exact walk_append_nil hnext h

/-! ## The last step -/

/-- A last name that leads to something is an entry, unless it stays or goes up. -/
theorem walk_singleton_cases (h : fs.walk .find links l [n] = .ok (.present target)) :
    (target = l ∨ target = l.up) ∨
      l.lost = [] ∧ (fs.node? (l.place ++ [n])).isSome := by
  obtain ⟨next, hstep⟩ := exists_step_of_walk h
  have hinside : ∀ inner, next = .inside inner → target = inner := by
    rintro inner rfl
    rw [walk_find_cons hstep] at h
    have hwalk : fs.walk .find links inner [] = .ok (.present inner) := by cases links <;> rfl
    exact (Arrival.present.inj (Except.ok.inj (hwalk.symm.trans h))).symm
  have habsent : next ≠ .absent := by
    rintro rfl
    rcases links with _ | links
    all_goals
      rw [walk, walkFrom, if_neg (by simp), hstep] at h
      exact absurd h (by simp)
  rw [step] at hstep
  split at hstep
  · exact absurd hstep (by simp)
  split at hstep
  · exact .inl (.inl (hinside l (Except.ok.inj hstep).symm))
  split at hstep
  · exact absurd hstep (by simp)
  split at hstep
  · exact .inl (.inl (hinside l (Except.ok.inj hstep).symm))
  split at hstep
  · exact .inl (.inr (hinside l.up (Except.ok.inj hstep).symm))
  split at hstep
  · exact absurd hstep (by simp)
  next hlost =>
    refine .inr ⟨Decidable.not_not.1 hlost, ?_⟩
    split at hstep
    · exact absurd hstep (by simp)
    rcases hnode : fs.node? (l.place ++ [n]) with _ | node
    · rw [hnode] at hstep
      exact absurd (Except.ok.inj hstep).symm habsent
    · rfl

/-! ## Listing -/

/-- Whether all directories may be read. -/
def AllReadable (fs : FileSystem) : Prop :=
  ∀ p mode, fs.node? p = some (.directory mode) → mode.AllowsReading

theorem allReadable_empty : empty.AllReadable := by
  intro p mode hp
  by_cases h : p = []
  · rw [h, node?_root] at hp
    obtain rfl := Node.directory.inj (Option.some.inj hp)
    decide
  · exact absurd hp (by simp [node?_empty h])

theorem AllReadable.insert (hread : fs.AllReadable) {p : Place} (hp : p ≠ []) {node : Node}
    (hnode : node.isReadable = true) : (fs.insert p node).AllReadable := by
  intro q mode hq
  rw [node?_insert fs hp] at hq
  split at hq
  · obtain rfl := Option.some.inj hq
    simpa [Node.isReadable] using hnode
  · exact hread q mode hq

theorem exists_of_list_eq_ok {entries : List Name} (h : fs.list l dir = .ok entries) :
    ∃ target, fs.locate l dir = .ok target ∧ fs.IsDirectoryAt target := by
  rw [list] at h
  split at h
  · exact absurd h (by simp)
  · next target hp =>
    split at h
    · next mode hmode => exact ⟨target, hp, mode, hmode⟩
    · exact absurd h (by simp)

/-- The entries of a directory that may be read are listed by its path. -/
theorem list_of_locate (hread : fs.AllReadable) (hp : fs.locate l dir = .ok target)
    (hd : fs.IsDirectoryAt target) (hlost : target.lost = []) :
    fs.list l dir = .ok (fs.names target.place) := by
  obtain ⟨mode, hmode⟩ := hd
  have hallows : mode.AllowsReading :=
    hread target.place mode (nodeAt?_of_lost_eq_nil hlost ▸ hmode)
  rw [list, hp]
  simp only [hmode, if_neg (not_not_intro hallows), if_pos hlost]

/-- **What can be executed in a directory is listed there.** -/
theorem mem_list_of_isExecutable_join (hfs : fs.WellFormed) (hread : fs.AllReadable)
    (hl : fs.Stands l) (hdir : dir ≠ []) (hbare : Path.IsBare n) (hn : n ≠ [])
    (h : fs.isExecutable l (dir.join n) = true) :
    ∃ entries, fs.list l dir = .ok entries ∧ n ∈ entries := by
  obtain ⟨place, mode, content, hlocate, hfile, -⟩ := isExecutable_iff_exists_place.1 h
  obtain ⟨hjoin, hwalk⟩ := locate_eq_ok_iff.1 hlocate
  have hstart : l.start (dir.join n) = l.start dir := by
    simp only [Location.start, Path.isAbsolute_join_iff hdir hbare]
  rw [hstart, Path.steps_join hdir hbare hn] at hwalk
  obtain ⟨next, hnext, left, hlast⟩ := exists_walk_of_walk_append (List.cons_ne_nil n []) hwalk
  have hsearchable : fs.IsSearchableAt next := by
    obtain ⟨step, hstep⟩ := exists_step_of_walk hlast
    exact isSearchableAt_of_step_eq_ok hstep hn
  have hdirectory := hsearchable.isDirectoryAt
  have hpath : refusal? dir = none :=
    refusal?_of_prefix (Path.prefix_join (Path.not_isAbsolute_of_isBare hbare)) hdir hjoin
  -- The walk to the directory arrives where the last step is taken.
  have hlocate : fs.locate l dir = .ok next :=
    locate_eq_ok_iff.2 ⟨hpath, walk_steps hdirectory hnext⟩
  -- It is taken to a file, so it neither stays nor goes up.
  have hstands : fs.Stands next :=
    hfs.stands_of_enter hl (enter_eq_ok_iff.2 ⟨hlocate, hsearchable⟩)
  have hnode : ¬ fs.IsDirectoryAt (.ofPlace place) := not_isDirectoryAt_of_node? hfile (by simp)
  rcases walk_singleton_cases hlast with (hstay | hup) | ⟨hlost, hentry⟩
  · rw [hstay] at hnode
    exact absurd hdirectory hnode
  · rw [hup] at hnode
    exact absurd (hfs.stands_up hstands).isDirectoryAt hnode
  · exact ⟨_, list_of_locate hread hlocate hdirectory hlost, mem_names_iff.2 hentry⟩

/-- A slash behind the path of a directory leads to that directory. -/
theorem locate_append_slash (hdir : dir ≠ []) (hlast : dir.getLast? ≠ some slash)
    (hpath : refusal? (dir ++ [slash]) = none) (hlocate : fs.locate l dir = .ok target)
    (hdirectory : fs.IsDirectoryAt target) : fs.locate l (dir ++ [slash]) = .ok target := by
  obtain ⟨-, hwalk⟩ := locate_eq_ok_iff.1 hlocate
  have hsteps : dir.steps = dir.names := if_neg fun h ↦ hlast h.2
  have hstart : l.start (dir ++ [slash]) = l.start dir := by
    obtain ⟨b, tail, rfl⟩ := List.exists_cons_of_ne_nil hdir
    rfl
  rw [hsteps, ← Path.names_append_slash, ← hstart] at hwalk
  exact locate_eq_ok_iff.2 ⟨hpath, walk_steps hdirectory hwalk⟩

/-- Behind the path of a directory an empty name leads to that directory, and to no file. -/
theorem isExecutable_join_nil (hlocate : fs.locate l dir = .ok target)
    (hdirectory : fs.IsDirectoryAt target) : fs.isExecutable l (dir.join []) = false := by
  rw [Bool.eq_false_iff]
  intro hexec
  obtain ⟨place, mode, content, hjoin, hfile, -⟩ := isExecutable_iff_exists_place.1 hexec
  have hsame : fs.locate l (dir.join []) = .ok target := by
    obtain ⟨hpath, -⟩ := locate_eq_ok_iff.1 hjoin
    rw [Path.join, if_neg (by decide)] at hpath ⊢
    split at hpath
    · next hslash => rwa [if_pos hslash, List.append_nil]
    · next hslash =>
      rw [if_neg hslash]
      rw [not_or] at hslash
      exact locate_append_slash hslash.1 hslash.2 hpath hlocate hdirectory
  obtain rfl : target = .ofPlace place := Except.ok.inj (hsame.symm.trans hjoin)
  exact not_isDirectoryAt_of_node? hfile (by simp) hdirectory

end FileSystem

end LineShell
