import LineShell.Command
import Mathlib.Data.List.Find

/-!
# What names stand for

A name stands for one of three things, and which of them is settled by two questions: is it the
name of a builtin, and if it is not, does the search path have a file for it. The answers are
equivalences, so that whoever knows the command knows all there is to know of its name.

The second question is only asked of paths in directories of the search path. If those are absolute,
so are the paths, and the answer depends on nothing but what absolute paths lead to
(`ofName_eq_of_forall_isAbsolute`).
-/

namespace LineShell

theorem Path.isAbsolute_join {base : Path} (h : base.IsAbsolute) (rel : Path) :
    (base.join rel).IsAbsolute := by
  by_cases hrel : rel.IsAbsolute
  · rwa [join, if_pos hrel]
  · obtain ⟨rest, hrest⟩ : base <+: base.join rel := prefix_join hrel
    obtain ⟨tail, rfl⟩ := List.head?_eq_some_iff.1 h
    rw [← hrest]
    rfl

theorem Builtin.ofName?_eq_none_iff {name : Text} :
    ofName? name = none ↔ ∀ b : Builtin, b.name ≠ name := by
  rw [Option.eq_none_iff_forall_ne_some]
  exact forall_congr' fun b ↦ not_congr ofName?_eq_some_iff

namespace Command

variable {s : Surroundings} {name : Text}

theorem ofName_of_builtin (s : Surroundings) (b : Builtin) :
    ofName s b.name = ⟨.builtin b, []⟩ := by
  rw [ofName, Builtin.ofName?_eq_some_iff.2 rfl]

theorem value_ofName_eq_builtin_iff {b : Builtin} :
    (ofName s name).value = .builtin b ↔ b.name = name := by
  constructor
  · intro h
    rw [ofName] at h
    split at h
    · next b' hb =>
      obtain rfl : b' = b := by simpa using h
      exact Builtin.ofName?_eq_some_iff.1 hb
    · split at h <;> simp at h
  · rintro rfl
    rw [ofName_of_builtin]

/-- What is no builtin is looked up, and the search path is read for it once. -/
theorem ofName_of_not_builtin (h : Builtin.ofName? name = none) :
    ofName s name
      = ⟨(findInPath s.isExecutable name (s.searchPath.getD [])).elim .notFound .external,
          [.searchPath]⟩ := by
  rw [ofName, h]
  rcases findInPath s.isExecutable name (s.searchPath.getD []) with _ | p <;> rfl

theorem value_ofName_of_not_builtin (h : Builtin.ofName? name = none) :
    (ofName s name).value
      = (findInPath s.isExecutable name (s.searchPath.getD [])).elim .notFound .external := by
  rw [ofName_of_not_builtin h]

theorem value_ofName_eq_external_iff {p : Path} :
    (ofName s name).value = .external p ↔ Builtin.ofName? name = none ∧
      findInPath s.isExecutable name (s.searchPath.getD []) = some p := by
  rcases hb : Builtin.ofName? name with _ | b
  · rw [value_ofName_of_not_builtin hb]
    rcases findInPath s.isExecutable name (s.searchPath.getD []) with _ | q <;> simp
  · rw [ofName, hb]
    simp

/-- A name stands for something if it is a builtin's or if some directory of the search path has an
executable file for it. -/
theorem value_ofName_ne_notFound_iff :
    (ofName s name).value ≠ .notFound ↔ (∃ b : Builtin, b.name = name) ∨
      ∃ dir ∈ Path.directories (s.searchPath.getD []),
        s.isExecutable (dir.join (Path.relative (Utf8.encode name))) = true := by
  rcases hb : Builtin.ofName? name with _ | b
  · have hno : ¬ ∃ b : Builtin, b.name = name := not_exists.2 (Builtin.ofName?_eq_none_iff.1 hb)
    rw [value_ofName_of_not_builtin hb, or_iff_right hno]
    rcases hfound : findInPath s.isExecutable name (s.searchPath.getD []) with _ | p
    · refine iff_of_false (not_not_intro rfl) ?_
      rintro ⟨dir, hdir, hexec⟩
      have hnone := List.find?_eq_none.1 hfound _ (List.mem_map_of_mem hdir)
      exact hnone hexec
    · obtain ⟨dir, hdir, rfl⟩ := List.mem_map.1 (List.mem_of_find?_eq_some hfound)
      exact iff_of_true (by simp) ⟨dir, hdir, isExecutable_of_findInPath hfound⟩
  · have hname : b.name = name := Builtin.ofName?_eq_some_iff.1 hb
    refine iff_of_true ?_ (.inl ⟨b, hname⟩)
    rw [value_ofName_eq_builtin_iff.2 hname]
    simp

theorem isExecutable_of_external {p : Path} (h : (ofName s name).value = .external p) :
    s.isExecutable p = true :=
  isExecutable_of_findInPath (value_ofName_eq_external_iff.1 h).2

theorem ofName_eq_of_findInPath_eq {s' : Surroundings}
    (h : findInPath s'.isExecutable name (s'.searchPath.getD [])
      = findInPath s.isExecutable name (s.searchPath.getD [])) :
    ofName s' name = ofName s name := by
  rw [ofName, ofName, h]

/-- A search path of absolute directories finds the same for all who agree on absolute paths. -/
theorem ofName_eq_of_forall_isAbsolute {s' : Surroundings} {searchPath : Bytes}
    (hs : s.searchPath = some searchPath) (hs' : s'.searchPath = some searchPath)
    (hdirs : ∀ dir ∈ Path.directories searchPath, dir.IsAbsolute)
    (hexec : ∀ p : Path, p.IsAbsolute → s'.isExecutable p = s.isExecutable p) (name : Text) :
    ofName s' name = ofName s name := by
  refine ofName_eq_of_findInPath_eq ?_
  rw [hs, hs', Option.getD_some, findInPath, findInPath]
  refine List.find?_congr fun p hp ↦ hexec p ?_
  obtain ⟨dir, hdir, rfl⟩ := List.mem_map.1 hp
  exact Path.isAbsolute_join (hdirs dir hdir) _

end Command

end LineShell
