import LineShell.FileSystem.Walk

/-!
# Well-formed file systems

Nodes at places need not make sense as files: there could be a file below a file, or a name with a
slash in it. A file system is *well-formed* if it is a tree of named entries: whatever is there is
in a directory, has a name that a path can spell, and, where it is a link, leads to something that a
path can spell.

Nothing is required of what links lead to. They may dangle, and they may lead round in circles.

## What being a tree is for

Looking up a place never asks what stands above it, so a lookup makes sense in any forest. It is
the walk from the root that meets all of that, and `directory_of_append` is what lets it through.
-/

namespace LineShell

namespace Path

/-- Whether a name can be given to an entry of a directory. -/
def IsName (n : Name) : Prop := IsEntry n ∧ IsBare n ∧ nul ∉ n ∧ n.length ≤ nameLimit

instance (n : Name) : Decidable (IsName n) := inferInstanceAs (Decidable (_ ∧ _))

end Path

namespace FileSystem

/-- Whether a file system is a tree of named entries below the root. -/
structure WellFormed (fs : FileSystem) : Prop where
  /-- Whatever is there is in a directory. -/
  parent : ∀ p, (fs.node? p).isSome → fs.IsDirectory p.dropLast
  /-- Whatever is there has a name that it can have. -/
  isName : ∀ dir n, (fs.node? (dir ++ [n])).isSome → Path.IsName n
  /-- Whatever a link leads to is spelled without NUL. -/
  isPath : ∀ p target, fs.node? p = some (.link target) → nul ∉ target

namespace WellFormed

variable {fs : FileSystem} (hfs : fs.WellFormed)
include hfs

/-- Every place above one that is there is a directory. -/
theorem directory_of_append {p q : Place} (hq : q ≠ []) (h : (fs.node? (p ++ q)).isSome) :
    fs.IsDirectory p := by
  induction q generalizing p with
  | nil => exact absurd rfl hq
  | cons n q ih =>
    have hn : (fs.node? (p ++ [n])).isSome := by
      by_cases hq : q = []
      · rwa [hq] at h
      · exact (ih hq (by rwa [List.append_assoc])).isSome
    have hparent := hfs.parent _ hn
    rwa [List.dropLast_concat] at hparent

theorem isName_of_mem {p : Place} (h : (fs.node? p).isSome) {n : Name} (hn : n ∈ p) :
    Path.IsName n := by
  obtain ⟨above, below, rfl⟩ := List.append_of_mem hn
  rw [List.append_cons] at h
  by_cases hb : below = []
  · exact hfs.isName above n (by rwa [hb, List.append_nil] at h)
  · exact hfs.isName above n (hfs.directory_of_append hb h).isSome

/-! ## Changes that keep it -/

/-- A node may be put at any name of a directory, but not instead of a directory. -/
theorem insert {dir : Place} {n : Name} {node : Node} (hdir : fs.IsDirectory dir)
    (hn : Path.IsName n) (hold : ¬ fs.IsDirectory (dir ++ [n]))
    (hnode : ∀ target, node = .link target → nul ∉ target) :
    (fs.insert (dir ++ [n]) node).WellFormed where
  parent p hp := by
    have hkeep {q : Place} (hq : fs.IsDirectory q) :
        (fs.insert (dir ++ [n]) node).IsDirectory q := by
      obtain ⟨mode, hmode⟩ := hq
      have hne : q ≠ dir ++ [n] := fun h ↦ hold ⟨mode, h ▸ hmode⟩
      exact ⟨mode, by rwa [node?_insert fs (by simp), if_neg hne]⟩
    rw [node?_insert fs (by simp)] at hp
    by_cases hpn : p = dir ++ [n]
    · rw [hpn, List.dropLast_concat]
      exact hkeep hdir
    · rw [if_neg hpn] at hp
      exact hkeep (hfs.parent p hp)
  isName p m hp := by
    rw [node?_insert fs (by simp)] at hp
    split at hp
    · next h =>
      rw [List.singleton_inj.1 (List.append_inj' h rfl).2]
      exact hn
    · exact hfs.isName p m hp
  isPath p target hp := by
    rw [node?_insert fs (by simp)] at hp
    split at hp
    · exact hnode target (Option.some.inj hp)
    · exact hfs.isPath p target hp

theorem insert_of_file {p : Place} {mode mode' : Mode} {content content' : Content}
    (hp : fs.node? p = some (.file mode content)) :
    (fs.insert p (.file mode' content')).WellFormed := by
  have hne : p ≠ [] := fun h ↦ by simp [h] at hp
  obtain ⟨dir, n, rfl⟩ : ∃ dir n, p = dir ++ [n] :=
    ⟨_, _, (List.dropLast_concat_getLast hne).symm⟩
  have hs : (fs.node? (dir ++ [n])).isSome := by rw [hp]; rfl
  have hd := hfs.parent _ hs
  rw [List.dropLast_concat] at hd
  exact hfs.insert hd (hfs.isName _ _ hs) (by simp [IsDirectory, hp]) (by simp)

end WellFormed

/-! ## The file system to start from -/

theorem wellFormed_empty : empty.WellFormed where
  parent p hp := by
    by_cases h : p = []
    · rw [h]; exact isDirectory_root empty
    · simp [node?_empty h] at hp
  isName dir n hp := by simp [node?_empty] at hp
  isPath p target hp := by
    by_cases h : p = []
    · simp [h] at hp
    · simp [node?_empty h] at hp

end FileSystem

end LineShell
