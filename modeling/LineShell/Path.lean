import LineShell.Text

/-!
# Paths

A path is a byte string; `/` separates its names, and nothing else in it has a meaning before it is
walked. A *name* is a byte string that stands between two slashes.

Two readings of a path are needed. As a string it is joined to another one and printed; as a
sequence of steps it is walked, from the root if it begins with `/` and from the working directory
otherwise. `steps` gives the latter: doubled slashes count once, and a slash at the end leaves an
empty last step, because it asks for a directory.
-/

namespace LineShell

/-- A path, as a string of bytes. -/
abbrev Path := Bytes

/-- A name in a path. -/
abbrev Name := Bytes

/-- The byte between two names. -/
def slash : UInt8 := 47

/-- The byte between two directories of a search path. -/
def colon : UInt8 := 58

/-- The byte that no path may hold. -/
def nul : UInt8 := 0

namespace Path

/-- The name of a directory in itself. -/
def here : Name := [46]

/-- The name of the directory above. -/
def above : Name := [46, 46]

/-! ## Paths as strings -/

/-- Whether a path starts at the root. -/
def IsAbsolute (p : Path) : Prop := p.head? = some slash

instance (p : Path) : Decidable p.IsAbsolute := inferInstanceAs (Decidable (_ = _))

/-- One path after another, with a slash between them where one is needed. An absolute path stands
for itself, and nothing is put before it. -/
def join (base rel : Path) : Path :=
  if rel.IsAbsolute then rel
  else if base = [] ∨ base.getLast? = some slash then base ++ rel
  else base ++ slash :: rel

/-- The path without the slashes at its beginning, so that it is relative. -/
def relative (p : Path) : Path := p.dropWhile (· == slash)

/-- A path without any slash: a name alone, which a search path may be searched for. -/
def IsBare (p : Path) : Prop := slash ∉ p

instance (p : Path) : Decidable p.IsBare := inferInstanceAs (Decidable (_ ∉ _))

/-- A path for the same file that is not bare. -/
def explicit (p : Path) : Path := if p.IsBare then join here p else p

/-! ## Paths as steps -/

/-- The names of a path in order. A slash at the end gives one more step, the empty name. -/
def steps (p : Path) : List Name :=
  let names := (p.splitOn slash).filter (· ≠ [])
  if names ≠ [] ∧ p.getLast? = some slash then names ++ [[]] else names

/-- Whether a path asks for a directory by a slash at its end. -/
def EndsInSlash (p : Path) : Prop := p.getLast? = some slash

instance (p : Path) : Decidable p.EndsInSlash := inferInstanceAs (Decidable (_ = _))

/-- The last name of a path, if it has one. -/
def lastName? (p : Path) : Option Name := (p.steps.filter (· ≠ [])).getLast?

/-- The absolute path in front of the last name of one. Names that stay in a directory do not
count. -/
def parent (p : Path) : Path :=
  slash :: [slash].intercalate (p.steps.filter fun n ↦ n ≠ [] ∧ n ≠ here).dropLast

/-- A step that names an entry of a directory, and does not stay or go up. -/
def IsEntry (n : Name) : Prop := n ≠ [] ∧ n ≠ here ∧ n ≠ above

instance (n : Name) : Decidable (IsEntry n) := inferInstanceAs (Decidable (_ ∧ _))

/-! ## Search paths -/

/-- The directories of a search path. Empty ones are kept, and an empty search path is one empty
directory. -/
def directories (searchPath : Bytes) : List Path := searchPath.splitOn colon

/-! ## Laws -/

theorem not_isAbsolute_relative (p : Path) : ¬ p.relative.IsAbsolute := by
  simp only [relative, IsAbsolute]
  induction p with
  | nil => simp
  | cons b p ih =>
    rw [List.dropWhile_cons]
    split
    · exact ih
    · next h => simpa using h

theorem prefix_join {base rel : Path} (h : ¬ rel.IsAbsolute) : base <+: join base rel := by
  rw [join, if_neg h]
  split <;> simp

@[simp] theorem relative_cons_slash (p : Path) : relative (slash :: p) = relative p := by
  simp [relative]

theorem not_isBare_explicit (p : Path) : ¬ p.explicit.IsBare := by
  rw [explicit]
  split
  · next h =>
    have hp : ¬ p.IsAbsolute := fun ha ↦ by
      obtain ⟨rest, rfl⟩ := List.head?_eq_some_iff.1 ha
      exact h (List.mem_cons_self ..)
    rw [join, if_neg hp, if_neg (by decide)]
    simp [IsBare]
  · assumption

/-! ### Splitting at slashes -/

/-- The parts between separators hold no separator, and no byte that was not there before. -/
theorem mem_of_mem_splitOn {sep b : UInt8} {p part : Bytes} (h : part ∈ p.splitOn sep)
    (hb : b ∈ part) : b ≠ sep ∧ b ∈ p := by
  induction p generalizing part with
  | nil =>
    rw [List.splitOn_nil, List.mem_singleton] at h
    subst h
    exact absurd hb List.not_mem_nil
  | cons c p ih =>
    rw [List.splitOn_cons_eq_if_modifyHead] at h
    split at h
    · rcases List.mem_cons.1 h with rfl | h
      · exact absurd hb List.not_mem_nil
      · exact ⟨(ih h hb).1, List.mem_cons_of_mem c (ih h hb).2⟩
    · next hc =>
      obtain ⟨first, rest, hs⟩ := List.exists_cons_of_ne_nil (List.splitOn_ne_nil sep p)
      rw [hs] at ih
      rw [hs, List.modifyHead_cons] at h
      rcases List.mem_cons.1 h with rfl | h
      · rcases List.mem_cons.1 hb with rfl | hb
        · exact ⟨fun he ↦ hc (beq_iff_eq.2 he), List.mem_cons_self⟩
        · obtain ⟨hne, hmem⟩ := ih List.mem_cons_self hb
          exact ⟨hne, List.mem_cons_of_mem c hmem⟩
      · obtain ⟨hne, hmem⟩ := ih (List.mem_cons_of_mem first h) hb
        exact ⟨hne, List.mem_cons_of_mem c hmem⟩

theorem mem_of_mem_steps {p : Path} {n : Name} {b : UInt8} (h : n ∈ p.steps) (hb : b ∈ n) :
    b ≠ slash ∧ b ∈ p := by
  have hn : n ∈ (p.splitOn slash).filter (· ≠ []) := by
    rw [steps] at h
    split at h
    · rcases List.mem_append.1 h with h | h
      · exact h
      · rw [List.mem_singleton.1 h] at hb
        exact absurd hb List.not_mem_nil
    · exact h
  exact mem_of_mem_splitOn (List.mem_filter.1 hn).1 hb

/-- Names behind slashes are the steps of the path that they make. -/
theorem steps_flatMap {names : List Name} (h : ∀ n ∈ names, n ≠ [] ∧ IsBare n) :
    steps (names.flatMap (slash :: ·)) = names := by
  have hsplit : (names.flatMap (slash :: ·)).splitOn slash = [] :: names := by
    induction names with
    | nil => rfl
    | cons n names ih =>
      obtain ⟨hn, hnames⟩ := List.forall_mem_cons.1 h
      rw [List.flatMap_cons, List.cons_append, List.splitOn_cons_eq_if_modifyHead,
        if_pos (by simp)]
      cases names with
      | nil => rw [List.flatMap_nil, List.append_nil, List.splitOn_eq_singleton hn.2]
      | cons m names =>
        have ih := ih hnames
        rw [List.flatMap_cons, List.cons_append, List.splitOn_cons_eq_if_modifyHead,
          if_pos (by simp)] at ih
        rw [List.flatMap_cons, List.cons_append, List.splitOn_append_cons_self_of_not_mem hn.2,
          (List.cons.inj ih).2]
  have hfilter : (names.flatMap (slash :: ·) |>.splitOn slash).filter (· ≠ []) = names := by
    rw [hsplit, List.filter_cons_of_neg (by simp)]
    exact List.filter_eq_self.2 fun n hn ↦ by simpa using (h n hn).1
  have hlast : names ≠ [] → (names.flatMap (slash :: ·)).getLast? ≠ some slash := by
    intro hne hl
    obtain ⟨init, n, rfl⟩ : ∃ init n, names = init ++ [n] :=
      ⟨_, _, (List.dropLast_concat_getLast hne).symm⟩
    obtain ⟨hn, hbare⟩ := h n (by simp)
    obtain ⟨start, b, rfl⟩ : ∃ start b, n = start ++ [b] :=
      ⟨_, _, (List.dropLast_concat_getLast hn).symm⟩
    rw [List.flatMap_append, List.flatMap_singleton, ← List.cons_append, ← List.append_assoc,
      List.getLast?_concat] at hl
    exact hbare (by simp [Option.some.inj hl])
  simp only [steps, hfilter]
  rw [if_neg fun hc ↦ hlast hc.1 hc.2]

end Path

end LineShell
