import LineShell.Proofs.FileSystem.Locating
import LineShell.FileSystem.Arrival

/-!
# Physical paths

The path of a directory is *physical* if it names the directory by nothing but the names that it and
those above it have, so that no link is followed on the way and no step stays or goes up. In a
well-formed file system every directory has one (`WellFormed.isPhysical`).

Whoever stands in a directory that is there, and walks, arrives at something that is there: `..`
takes names away, and all other steps lead to what has just been looked up (`lost_step`). So after a
`cd` the path of where one stands is known again, and it is physical, whatever links led there.

That path leads back, if it may be walked: every directory that it names is searched on the way, and
the last of them is entered. One that may not be searched ends the walk there (`enter_path_denied`).
-/

namespace LineShell.FileSystem

variable {fs : FileSystem} {purpose : Purpose} {l target : Location} {n : Name} {p : Path}
  {dir : Place}

/-! ## Walks where everything is there -/

/-- Whether an arrival is in the tree: nothing of where it is has been removed. -/
def Arrival.IsWhole : Arrival → Prop
  | .present l => l.lost = []
  | .absent dir _ => dir.lost = []

theorem lost_step {next : Location} (hl : l.lost = []) (h : fs.step l n = .ok (.inside next)) :
    next.lost = [] := by
  rw [step] at h
  repeat' split at h
  all_goals try cases h
  · exact hl
  · exact hl
  · rw [Location.up, hl]
    rfl
  · rfl

theorem lost_start (hl : l.lost = []) (p : Path) : (l.start p).lost = [] := by
  rw [Location.start]
  split
  · rfl
  · exact hl

/-- A walk up to the first link stays in the tree if it does so behind that link. -/
theorem isWhole_walkFrom {follow : Location → Path → List Name → Except SystemError Arrival}
    {arrival : Arrival}
    (hfollow : ∀ l target rest, l.lost = [] → follow l target rest = .ok arrival → arrival.IsWhole)
    {names : List Name} (hl : l.lost = [])
    (h : walkFrom fs purpose follow l names = .ok arrival) : arrival.IsWhole := by
  induction names generalizing l with
  | nil => exact Except.ok.inj h ▸ hl
  | cons n rest ih =>
    rw [walkFrom] at h
    split at h
    · exact absurd h (by simp)
    · split at h
      · exact absurd h (by simp)
      · next hs => exact ih (lost_step hl hs) h
      · exact hfollow _ _ _ hl h
      · split at h
        · exact Except.ok.inj h ▸ hl
        · exact absurd h (by simp)

theorem isWhole_walk {links : Nat} {names : List Name} {arrival : Arrival} (hl : l.lost = [])
    (h : fs.walk purpose links l names = .ok arrival) : arrival.IsWhole := by
  induction links generalizing l names with
  | zero =>
    rw [walk] at h
    exact isWhole_walkFrom (fun _ _ _ _ h ↦ absurd h (by simp)) hl h
  | succ links ih =>
    rw [walk] at h
    exact isWhole_walkFrom (fun l target _ hl h ↦ ih (lost_start hl target) h) hl h

theorem lost_enter (hl : l.lost = []) (h : fs.enter l p = .ok target) : target.lost = [] := by
  obtain ⟨-, hwalk⟩ := locate_eq_ok_iff.1 (enter_eq_ok_iff.1 h).1
  exact isWhole_walk (lost_start hl p) hwalk

/-! ## Directories by their own names -/

/-- Whether a place names a directory physically: from the root on, every part of it is a directory
itself and not a link to one, and all its names are those of entries. -/
structure IsPhysical (fs : FileSystem) (dir : Place) : Prop where
  /-- Every part is a directory. -/
  directory : ∀ above, above <+: dir → fs.IsDirectory above
  /-- No name stays or goes up, or has a slash in it. -/
  isName : ∀ n ∈ dir, Path.IsName n

theorem WellFormed.isPhysical (hfs : fs.WellFormed) (h : fs.IsDirectory dir) :
    fs.IsPhysical dir where
  directory := by
    rintro above ⟨below, rfl⟩
    by_cases hb : below = []
    · rwa [hb, List.append_nil] at h
    · exact hfs.directory_of_append hb h.isSome
  isName n := hfs.isName_of_mem h.isSome

/-- Whether a directory and all above it, up to the root, may be searched. -/
def IsOpen (fs : FileSystem) (dir : Place) : Prop := ∀ above, above <+: dir → fs.IsSearchable above

/-- Names end at the first directory that may not be searched. -/
theorem IsPhysical.walkFrom_eq_denied
    {follow : Location → Path → List Name → Except SystemError Arrival} {names : Place}
    (hfs : fs.WellFormed) (h : fs.IsPhysical (dir ++ names)) {above : Place}
    (habove : above <+: names) (hne : above ≠ names) (hs : ¬ fs.IsSearchable (dir ++ above)) :
    walkFrom fs .find follow (.ofPlace dir) names = .error .denied := by
  induction names generalizing dir above with
  | nil => exact absurd (List.prefix_nil.1 habove) hne
  | cons n names ih =>
    rw [walkFrom, if_neg (by simp)]
    have hname := h.isName n (List.mem_append_right dir List.mem_cons_self)
    by_cases hdir : fs.IsSearchable dir
    · -- This directory lets the walk through, so it is one further down that does not.
      rcases above with _ | ⟨m, above⟩
      · rw [List.append_nil] at hs
        exact absurd hdir hs
      · obtain ⟨rfl, hbelow⟩ := List.cons_prefix_cons.1 habove
        obtain ⟨mode, hmode⟩ := h.directory (dir ++ [m]) (by simp)
        rw [hfs.step_ofPlace hdir hmode (by simp)]
        refine ih (by rwa [List.append_assoc]) hbelow (by simpa using hne) ?_
        rwa [List.append_assoc]
    · have hd : fs.IsDirectoryAt (.ofPlace dir) := h.directory dir (List.prefix_append dir _)
      rw [step_eq_denied hd hdir hname.1.1]

theorem IsOpen.isAccessible (h : fs.IsOpen dir) : fs.IsAccessible dir :=
  fun above habove _ ↦ h above habove

/-- A directory that may be searched, and to which a walk gets, is open. -/
theorem IsAccessible.isOpen (h : fs.IsAccessible dir) (hs : fs.IsSearchable dir) :
    fs.IsOpen dir := by
  intro above habove
  by_cases hne : above = dir
  · rwa [hne]
  · exact h above habove hne

/-- **A physical path leads from everywhere to the directory that it is the path of,** if that and
all directories above it may be searched. -/
theorem WellFormed.enter_path (hfs : fs.WellFormed) (h : fs.IsOpen dir)
    (hlen : dir.path.length < pathLimit) (l : Location) :
    fs.enter l dir.path = .ok (.ofPlace dir) := by
  obtain ⟨mode, hmode, hs⟩ := h dir (List.prefix_refl dir)
  exact enter_eq_ok_iff.2
    ⟨hfs.locate_path hmode (by simp) h.isAccessible hlen l, mode, hmode, hs⟩

/-- Otherwise it leads nowhere. -/
theorem WellFormed.enter_path_denied (hfs : fs.WellFormed) (hd : fs.IsDirectory dir)
    (h : ¬ fs.IsOpen dir) (hlen : dir.path.length < pathLimit) (l : Location) :
    fs.enter l dir.path = .error (.system .denied) := by
  have hphysical := hfs.isPhysical hd
  by_cases haccess : fs.IsAccessible dir
  · obtain ⟨mode, hmode⟩ := hd
    have hp := hfs.locate_path hmode (by simp) haccess hlen l
    exact enter_eq_denied hp ⟨mode, hmode⟩ fun hs ↦ h (haccess.isOpen hs)
  · simp only [IsAccessible, Classical.not_forall] at haccess
    obtain ⟨above, habove, hne, hs⟩ := haccess
    have hwalk : fs.walk .find linkLimit (.ofPlace []) dir = .error .denied :=
      IsPhysical.walkFrom_eq_denied hfs hphysical habove hne hs
    rw [enter, locate_path_eq hphysical.isName hlen, hwalk]

end LineShell.FileSystem
