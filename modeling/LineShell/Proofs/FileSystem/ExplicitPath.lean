import LineShell.Proofs.FileSystem.Locating

/-!
# Paths that are made explicit

A program is started by a path that is not bare, and where the path at which it was found is bare,
`./` is put before it (`Path.explicit`). That path leads to the same thing (`locate_explicit`): its
first step stays in the directory from which the bare name is looked up, which is searched either
way, and the two bytes more do not make it too long, since a name that leads anywhere is much
shorter than a path may be.
-/

namespace LineShell

namespace Path

theorem not_isAbsolute_of_isBare {p : Path} (h : p.IsBare) : ¬ p.IsAbsolute := by
  intro ha
  obtain ⟨rest, rfl⟩ := List.head?_eq_some_iff.1 ha
  exact h List.mem_cons_self

theorem relative_of_not_isAbsolute {p : Path} (h : ¬ p.IsAbsolute) : p.relative = p := by
  cases p with
  | nil => rfl
  | cons b p => exact List.dropWhile_cons_of_neg (by simpa [IsAbsolute] using h)

theorem relative_of_isBare {p : Path} (h : p.IsBare) : p.relative = p :=
  relative_of_not_isAbsolute (not_isAbsolute_of_isBare h)

theorem getLast?_ne_slash_of_isBare {p : Path} (h : p.IsBare) : p.getLast? ≠ some slash :=
  fun hl ↦ h (List.mem_of_getLast? hl)

theorem steps_of_isBare {p : Path} (h : p.IsBare) (hne : p ≠ []) : p.steps = [p] := by
  have hlast := getLast?_ne_slash_of_isBare h
  simp [steps, List.splitOn_eq_singleton h, hne, hlast]

theorem explicit_of_isBare {p : Path} (h : p.IsBare) : p.explicit = 46 :: slash :: p := by
  rw [explicit, if_pos h, join, if_neg (not_isAbsolute_of_isBare h), if_neg (by decide)]
  rfl

theorem steps_explicit {p : Path} (h : p.IsBare) (hne : p ≠ []) : p.explicit.steps = [here, p] := by
  have hsplit : (46 :: slash :: p).splitOn slash = [here, p] := by
    have hhere : slash ∉ here := by decide
    have happend := List.splitOn_append_cons_self_of_not_mem hhere p
    rwa [List.splitOn_eq_singleton h] at happend
  have hlast : (46 :: slash :: p).getLast? ≠ some slash := by
    rw [List.getLast?_cons_cons, List.getLast?_cons_of_ne_nil hne]
    exact getLast?_ne_slash_of_isBare h
  rw [explicit_of_isBare h, steps, hsplit, if_neg fun hc ↦ hlast hc.2]
  simp [hne, here]

end Path

namespace FileSystem

variable {fs : FileSystem} {l target : Location} {p : Path}

/-- **A path that is made explicit leads where it led before.** -/
theorem locate_explicit (h : fs.locate l p = .ok target) : fs.locate l p.explicit = .ok target := by
  by_cases hbare : p.IsBare
  · obtain ⟨hp, hwalk⟩ := locate_eq_ok_iff.1 h
    obtain ⟨hnul, hne, -⟩ := refusal?_eq_none_iff.1 hp
    rw [Path.steps_of_isBare hbare hne, Location.start,
      if_neg (Path.not_isAbsolute_of_isBare hbare)] at hwalk
    -- The name leads somewhere, so it is short enough and is looked up in a directory.
    obtain ⟨next, hstep⟩ := exists_step_of_walk hwalk
    have hlen : p.length ≤ nameLimit := length_le_of_step_eq_ok hstep
    have hstart : l.start p.explicit = l := if_neg <| by
      simp [Path.explicit_of_isBare hbare, Path.IsAbsolute, slash]
    refine locate_eq_ok_iff.2 ⟨refusal?_eq_none_iff.2 ⟨?_, ?_, ?_⟩, ?_⟩
    · rw [Path.explicit_of_isBare hbare]
      simpa [nul, slash] using hnul
    · rw [Path.explicit_of_isBare hbare]
      exact List.cons_ne_nil _ _
    · rw [Path.explicit_of_isBare hbare, List.length_cons, List.length_cons]
      exact Nat.lt_of_le_of_lt (Nat.add_le_add_right hlen 2) (by decide)
    · have hhere := step_here (isSearchableAt_of_step_eq_ok hstep hne)
      rwa [hstart, Path.steps_explicit hbare hne, walk_find_cons hhere]
  · rwa [Path.explicit, if_neg hbare]

end FileSystem

end LineShell
