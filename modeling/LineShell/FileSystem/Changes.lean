import LineShell.FileSystem

/-!
# What changed

The difference between two file systems below a place: every place there whose node is not the
same, with the node that it has now, or none if it is gone (`mem_changes_iff`). A file that was
rewritten with what it held before is the same file. The differences come in the order of their
paths' bytes.

To compare files one has to read them. Where a file may not be read there is no comparison at all.
-/

namespace LineShell.FileSystem

/-- The path of names that lead from one place to another. -/
def relativePath (p : Place) : Path := [slash].intercalate p

/-- The changes below a place, by their paths relative to it. -/
def changes (before after : FileSystem) (dir : Place) : List (Path × Option Node) :=
  let old := before.nodes.under dir
  let new := after.nodes.under dir
  let changed := (old.suspects new).filter fun p ↦ old.find? p ≠ new.find? p
  (changed.map fun p ↦ (relativePath p, new.find? p)).mergeSort fun a b ↦ a.1 ≤ b.1

/-- Whether all regular files below a place may be read. -/
def readableBelow (fs : FileSystem) (dir : Place) : Bool :=
  (fs.nodes.under dir).all Node.isReadable

/-- The changes below a place, if they can be found out. -/
def changes? (before after : FileSystem) (dir : Place) : Option (List (Path × Option Node)) :=
  if before.readableBelow dir ∧ after.readableBelow dir then some (before.changes after dir)
  else none

/-! ## Laws -/

/-- A change is listed exactly if there is one. -/
theorem mem_changes_iff {before after : FileSystem} {dir : Place} {change : Path × Option Node} :
    change ∈ before.changes after dir ↔ ∃ p ≠ [],
      before.node? (dir ++ p) ≠ after.node? (dir ++ p) ∧
        change = (relativePath p, after.node? (dir ++ p)) := by
  rw [changes, List.mem_mergeSort, List.mem_map]
  refine exists_congr fun p ↦ ?_
  rw [List.mem_filter, decide_eq_true_eq]
  by_cases hp : p = []
  · simp [hp]
  · have hnode (fs : FileSystem) : (fs.nodes.under dir).find? p = fs.node? (dir ++ p) := by
      rw [Forest.find?_under _ _ hp, node?_of_ne_nil (by simp [hp])]
    rw [hnode, hnode, eq_comm (b := change), and_assoc]
    refine ⟨fun h ↦ ⟨hp, h.2⟩, fun h ↦ ⟨Forest.mem_suspects ?_, h.2⟩⟩
    rw [hnode, hnode]
    exact h.2.1

@[simp] theorem changes_self (fs : FileSystem) (dir : Place) : fs.changes fs dir = [] :=
  List.eq_nil_iff_forall_not_mem.2 fun _ h ↦ by
    obtain ⟨_, _, hne, _⟩ := mem_changes_iff.1 h
    exact hne rfl

end LineShell.FileSystem
