import LineShell.Proofs.FileSystem.Entries

/-!
# Paths that name no directory

A path that starts where one stands and has one part only says of no directory where its last name
is to be looked up. Such a path is made explicit before a program is started by it. To tell one,
a path is taken apart, and slashes at its end, doubled ones, and names that stay where they are do
not count as parts. So `d/` and `d/.` have one part, as `d` has.

For a path to a file that makes no difference: whatever stands behind the first slash of such a path
asks for a directory (`walk_stay`). Hence of the paths to files those with one part are the bare
ones, and what is made explicit is what would be looked up in the search path again
(`explicit_of_isExecutable`).
-/

namespace LineShell

namespace Path

/-- The parts of a path that starts where one stands. A name that stays where it is counts only at
the beginning. -/
def parts (p : Path) : List Name :=
  match p.names with
  | [] => []
  | n :: rest => n :: rest.filter (· ≠ here)

/-- Whether a path starts where one stands and has one part only, so that no directory is named
before its last name. -/
def IsAlone (p : Path) : Prop := ¬ p.IsAbsolute ∧ p.parts.length = 1

instance (p : Path) : Decidable p.IsAlone := inferInstanceAs (Decidable (_ ∧ _))

variable {p : Path}

theorem isAlone_of_isBare (h : p.IsBare) (hne : p ≠ []) : p.IsAlone := by
  have hnames : p.names = [p] := by
    rw [names, List.splitOn_eq_singleton h, List.filter_cons_of_pos (by simpa using hne)]
    rfl
  refine ⟨not_isAbsolute_of_isBare h, ?_⟩
  rw [parts, hnames]
  rfl

/-- A path without names is made of slashes. -/
theorem eq_slash_of_names_eq_nil (h : p.names = []) {b : UInt8} (hb : b ∈ p) : b = slash := by
  induction p with
  | nil => exact absurd hb List.not_mem_nil
  | cons c p ih =>
    rw [names, List.splitOn_cons_eq_if_modifyHead] at h
    split at h
    · next hc =>
      rcases List.mem_cons.1 hb with rfl | hb
      · exact beq_iff_eq.1 hc
      · exact ih h hb
    · -- The first part has the byte in it, and would be a name.
      obtain ⟨first, rest, hs⟩ := List.exists_cons_of_ne_nil (List.splitOn_ne_nil slash p)
      rw [hs, List.modifyHead_cons] at h
      exact absurd h (by simp)

/-- Behind the first part of a path that has no other, but a slash, there are only steps that stay
where they are. -/
theorem exists_steps_of_isAlone (h : p.IsAlone) (hbare : ¬ p.IsBare) :
    ∃ first rest, p.steps = first :: rest ∧ rest ≠ [] ∧ ∀ n ∈ rest, n = [] ∨ n = here := by
  obtain ⟨habs, hparts⟩ := h
  obtain ⟨first, behind, hp, hfirst⟩ := List.eq_append_cons_of_mem (Decidable.not_not.1 hbare)
  have hne : first ≠ [] := by
    rintro rfl
    exact habs (congrArg List.head? hp)
  have hnames : p.names = first :: names behind := by
    rw [names, hp, List.splitOn_append_cons_self_of_not_mem hfirst,
      List.filter_cons_of_pos (by simpa using hne)]
    rfl
  have hstay : ∀ n ∈ names behind, n = here := by
    rw [parts, hnames] at hparts
    simpa using hparts
  rcases steps_eq_names_or p with hsteps | hsteps
  · refine ⟨first, names behind, hsteps.trans hnames, fun hnil ↦ ?_, fun n hn ↦ .inr (hstay n hn)⟩
    -- Nothing but slashes would then stand at the end, and a slash at the end is a step.
    have hlast : p.getLast? = some slash := by
      have hall : ∀ b ∈ slash :: behind, b = slash := by
        rintro b (_ | ⟨_, hb⟩)
        · rfl
        · exact eq_slash_of_names_eq_nil hnil hb
      rw [hp, List.getLast?_append, List.getLast?_eq_some_getLast (List.cons_ne_nil _ _),
        Option.some_or]
      exact congrArg some (hall _ (List.getLast_mem _))
    have hslash : p.steps = p.names ++ [[]] :=
      if_pos ⟨by rw [← names, hnames]; exact List.cons_ne_nil _ _, hlast⟩
    exact absurd (hsteps.symm.trans hslash) (by simp)
  · refine ⟨first, names behind ++ [[]], by rw [hsteps, hnames]; rfl, by simp, fun n hn ↦ ?_⟩
    rcases List.mem_append.1 hn with hn | hn
    · exact .inr (hstay n hn)
    · exact .inl (List.mem_singleton.1 hn)

end Path

namespace FileSystem

variable {fs : FileSystem} {l target : Location} {p : Path} {links : Nat} {names : List Name}

/-- Names that stay where they are lead to a directory if they lead anywhere. -/
theorem walk_stay (hne : names ≠ []) (hstay : ∀ n ∈ names, n = [] ∨ n = Path.here)
    (h : fs.walk .find links l names = .ok (.present target)) :
    fs.IsDirectoryAt target := by
  induction names with
  | nil => exact absurd rfl hne
  | cons n names ih =>
    obtain ⟨hn, hstay⟩ := List.forall_mem_cons.1 hstay
    obtain ⟨next, hstep⟩ := exists_step_of_walk h
    have hdir := isDirectoryAt_of_step_eq_ok hstep
    have hstep : fs.step l n = .ok (.inside l) := by
      rcases hn with rfl | rfl
      · exact step_nil hdir
      · exact step_here (isSearchableAt_of_step_eq_ok hstep (by decide))
    rw [walk_find_cons hstep] at h
    by_cases hnil : names = []
    · subst hnil
      have hwalk : fs.walk .find links l [] = .ok (.present l) := by cases links <;> rfl
      obtain rfl : l = target := Arrival.present.inj (Except.ok.inj (hwalk.symm.trans h))
      exact hdir
    · exact ih hnil hstay h

/-- Of the paths to files those with one part are the bare ones. -/
theorem isAlone_iff_isBare (h : fs.locate l p = .ok target)
    (hfile : ¬ fs.IsDirectoryAt target) : p.IsAlone ↔ p.IsBare := by
  obtain ⟨hp, hwalk⟩ := locate_eq_ok_iff.1 h
  constructor
  · intro halone
    refine Decidable.not_not.1 fun hbare ↦ ?_
    obtain ⟨first, rest, hsteps, hrest, hstay⟩ := Path.exists_steps_of_isAlone halone hbare
    rw [hsteps, ← List.singleton_append] at hwalk
    obtain ⟨next, -, left, hlast⟩ := exists_walk_of_walk_append hrest hwalk
    exact hfile (walk_stay hrest hstay hlast)
  · intro hbare
    exact Path.isAlone_of_isBare hbare (refusal?_eq_none_iff.1 hp).2.1

/-- **What is made explicit** of what can be executed is what names no directory. -/
theorem explicit_of_isExecutable (h : fs.isExecutable l p = true) :
    p.explicit = if p.IsAlone then Path.join Path.here p else p := by
  obtain ⟨place, mode, content, hp, hfile, -⟩ := isExecutable_iff_exists_place.1 h
  have hnode : ¬ fs.IsDirectoryAt (.ofPlace place) := not_isDirectoryAt_of_node? hfile (by simp)
  simp only [Path.explicit, isAlone_iff_isBare hp hnode]

end FileSystem

end LineShell
