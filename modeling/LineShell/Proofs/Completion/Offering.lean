import LineShell.Proofs.Completion.Agreement
import Mathlib.Data.List.Sort

/-!
# What is offered, and in which order

The names that are offered for a beginning stand in the order of their bytes, each of them once
(`pairwise_commandNames`). A list in this order is told by its members, so whatever does not change
which names are offered does not change the list. It does not matter how often a directory stands in
the search path, or where, or whether there are others that cannot be listed
(`commandNames_congr`); and more of a beginning leaves those of the names that begin with more
(`commandNames_append`). The main statement, `commandNames_inOrder`, has all of this.

## What is taken for a name

A name in a directory is bytes, and is offered if they are UTF-8. No name is empty, even if a
directory had an entry without a name: behind the path of a directory nothing else leads to that
directory, and that cannot be executed (`ne_nil_of_mem_commandNames`).
-/

namespace LineShell

/-! ## Names in order -/

/-- Whether the bytes of a text come before those of another. -/
def BytesBefore (a b : Text) : Prop := Utf8.encode a < Utf8.encode b

instance : Std.Irrefl BytesBefore := ⟨fun a ↦ List.lt_irrefl (Utf8.encode a)⟩

instance : Std.Asymm BytesBefore := ⟨fun _ _ h h' ↦ List.lt_asymm h h'⟩

theorem encode_injective {a b : Text} (h : Utf8.encode a = Utf8.encode b) : a = b := by
  have hdecode : Utf8.decode? (Utf8.encode a) = some b := Utf8.decode?_eq_some_iff.2 h.symm
  exact Option.some.inj ((Utf8.decode?_encode a).symm.trans hdecode)

theorem nodup_eraseDups (names : List Text) : names.eraseDups.Nodup := by
  -- On the length, because what is left behind the first name is not the tail.
  induction hn : names.length using Nat.strongRecOn generalizing names with
  | _ n ih =>
    cases names with
    | nil => exact List.nodup_nil
    | cons name rest =>
      rw [List.eraseDups_cons, List.nodup_cons]
      have hlength := List.length_filter_le (fun other ↦ !other == name) rest
      rw [List.length_cons] at hn
      refine ⟨?_, ih _ (by omega) _ rfl⟩
      rw [List.mem_eraseDups]
      simp

theorem pairwise_sortNames (names : List Text) : (sortNames names).Pairwise BytesBefore := by
  have htrans (a b c : Text) (hab : decide (Utf8.encode a ≤ Utf8.encode b) = true)
      (hbc : decide (Utf8.encode b ≤ Utf8.encode c) = true) :
      decide (Utf8.encode a ≤ Utf8.encode c) = true := by
    rw [decide_eq_true_iff] at hab hbc ⊢
    exact List.le_trans hab hbc
  have htotal (a b : Text) : (decide (Utf8.encode a ≤ Utf8.encode b)
      || decide (Utf8.encode b ≤ Utf8.encode a)) = true := by
    rw [Bool.or_eq_true, decide_eq_true_iff, decide_eq_true_iff]
    exact List.le_total _ _
  have hle := List.pairwise_mergeSort htrans htotal names.eraseDups
  have hne : (sortNames names).Nodup :=
    (List.mergeSort_perm names.eraseDups _).nodup_iff.2 (nodup_eraseDups names)
  refine (hle.and hne).imp ?_
  intro a b hab
  obtain ⟨hle, hne⟩ := hab
  exact Std.lt_of_le_of_ne (of_decide_eq_true hle) fun h ↦ hne (encode_injective h)

namespace Machine

variable {m : Machine} {start n : Text} {dir : Path} {searchPath other : Option Bytes}

theorem pairwise_commandNames (m : Machine) (start : Text) (searchPath : Option Bytes) :
    (m.commandNames start searchPath).Pairwise BytesBefore :=
  pairwise_sortNames _

/-- Names in order are those that are offered if they are the same names. -/
theorem commandNames_eq_of_mem_iff {names : List Text} (hnames : names.Pairwise BytesBefore)
    (h : ∀ n, n ∈ m.commandNames start searchPath ↔ n ∈ names) :
    m.commandNames start searchPath = names :=
  (m.pairwise_commandNames start searchPath).eq_of_mem_iff hnames h

/-! ## Directories -/

/-- The directories of a search path. Where none is set there are none. -/
abbrev searchedDirectories (searchPath : Option Bytes) : List Path :=
  (searchPath.map Path.directories).getD []

/-- Whether a path leads to a directory whose names can be listed. -/
def CanList (m : Machine) (dir : Path) : Prop :=
  ∃ entries, m.files.list m.location dir = .ok entries

/-- Whether a directory can be listed and has a name for a file that can be executed. -/
def ListsExecutable (m : Machine) (dir : Path) (n : Text) : Prop :=
  ∃ entries, m.files.list m.location dir = .ok entries ∧ Utf8.encode n ∈ entries ∧
    m.isExecutable (dir.join (Utf8.encode n)) = true

theorem mem_executablesIn_iff_listsExecutable :
    n ∈ m.executablesIn dir ↔ m.ListsExecutable dir n := by
  rw [mem_executablesIn_iff]
  constructor
  · rintro ⟨⟨entries, hlist, hmem⟩, hexec⟩
    exact ⟨entries, hlist, hmem, hexec⟩
  · rintro ⟨entries, hlist, hmem, hexec⟩
    exact ⟨⟨entries, hlist, hmem⟩, hexec⟩

theorem ListsExecutable.canList (h : m.ListsExecutable dir n) : m.CanList dir := by
  obtain ⟨entries, hlist, -⟩ := h
  exact ⟨entries, hlist⟩

theorem ListsExecutable.dir_ne_nil (h : m.ListsExecutable dir n) : dir ≠ [] := by
  rintro rfl
  exact not_mem_executablesIn_nil (mem_executablesIn_iff_listsExecutable.2 h)

theorem ListsExecutable.ne_nil (h : m.ListsExecutable dir n) : n ≠ [] := by
  rintro rfl
  obtain ⟨entries, hlist, -, hexec⟩ := h
  obtain ⟨target, hlocate, hdirectory⟩ := FileSystem.exists_of_list_eq_ok hlist
  have hnot := FileSystem.isExecutable_join_nil hlocate hdirectory
  exact absurd (hexec.symm.trans hnot) (by decide)

/-! ## Names that are offered -/

/-- A name is offered if it begins in that way and is the name of a builtin, or of an executable file
that is listed in a directory of the search path. -/
theorem mem_commandNames_iff_listsExecutable :
    n ∈ m.commandNames start searchPath ↔ start <+: n ∧ ((∃ b : Builtin, b.name = n) ∨
      ∃ dir ∈ searchedDirectories searchPath, m.ListsExecutable dir n) := by
  simp only [mem_commandNames_iff, mem_executablesIn_iff_listsExecutable]

theorem ne_nil_of_mem_commandNames (h : n ∈ m.commandNames start searchPath) : n ≠ [] := by
  obtain ⟨-, ⟨b, rfl⟩ | ⟨dir, -, hlists⟩⟩ := mem_commandNames_iff_listsExecutable.1 h
  · cases b <;> decide
  · exact hlists.ne_nil

theorem commandNames_congr
    (h : ∀ dir, m.CanList dir →
      (dir ∈ searchedDirectories other ↔ dir ∈ searchedDirectories searchPath)) :
    m.commandNames start other = m.commandNames start searchPath := by
  apply commandNames_eq_of_mem_iff (m.pairwise_commandNames start searchPath)
  intro n
  rw [mem_commandNames_iff_listsExecutable, mem_commandNames_iff_listsExecutable]
  refine and_congr_right fun _ ↦ or_congr_right (exists_congr fun dir ↦ ?_)
  exact and_congr_left fun hlists ↦ h dir hlists.canList

theorem commandNames_append (m : Machine) (start more : Text) (searchPath : Option Bytes) :
    m.commandNames (start ++ more) searchPath
      = (m.commandNames start searchPath).filter (start ++ more <+: ·) := by
  apply commandNames_eq_of_mem_iff
  · exact (m.pairwise_commandNames start searchPath).filter _
  · intro n
    rw [List.mem_filter, decide_eq_true_iff, mem_commandNames_iff_listsExecutable,
      mem_commandNames_iff_listsExecutable]
    constructor
    · rintro ⟨hmore, hn⟩
      exact ⟨⟨(List.prefix_append start more).trans hmore, hn⟩, hmore⟩
    · rintro ⟨⟨-, hn⟩, hmore⟩
      exact ⟨hmore, hn⟩

/-- **What is offered for a beginning.** The names stand in the order of their bytes, each of them
once. They are those that begin in that way and are a builtin's, or are listed in a directory of the
search path, and executable there. Search paths with the same directories among those that can be
listed offer the same, wherever and however often these stand in them. And a longer beginning leaves
the names that begin with it, in their order. -/
theorem commandNames_inOrder (m : Machine) (start : Text) (searchPath : Option Bytes) :
    (m.commandNames start searchPath).Pairwise (Utf8.encode · < Utf8.encode ·) ∧
      (∀ n, n ∈ m.commandNames start searchPath ↔ start <+: n ∧ ((∃ b : Builtin, b.name = n) ∨
        ∃ dir ∈ searchedDirectories searchPath, dir ≠ [] ∧ ∃ entries,
          m.files.list m.location dir = .ok entries ∧ Utf8.encode n ∈ entries ∧
            m.isExecutable (dir.join (Utf8.encode n)) = true)) ∧
      (∀ other, (∀ dir, m.CanList dir →
          (dir ∈ searchedDirectories other ↔ dir ∈ searchedDirectories searchPath)) →
        m.commandNames start other = m.commandNames start searchPath) ∧
      ∀ more, m.commandNames (start ++ more) searchPath
        = (m.commandNames start searchPath).filter (start ++ more <+: ·) := by
  refine ⟨m.pairwise_commandNames start searchPath, fun n ↦ ?_, fun other h ↦ commandNames_congr h,
    fun more ↦ m.commandNames_append start more searchPath⟩
  rw [mem_commandNames_iff_listsExecutable]
  refine and_congr_right fun _ ↦ or_congr_right (exists_congr fun dir ↦ and_congr_right fun _ ↦ ?_)
  exact ⟨fun h ↦ ⟨h.dir_ne_nil, h⟩, fun h ↦ h.2⟩

/-- A directory that stands twice in a search path, around one that is not there, offers what it
offers alone. -/
theorem commandNames_localProgram_repeated :
    localProgram.commandNames "lo".toList (some (FileSystem.textName "/:/no:/"))
      = localProgram.commandNames "lo".toList (some (FileSystem.textName "/")) := by
  refine (commandNames_inOrder localProgram "lo".toList _).2.2.1 _ ?_
  have hnot : ¬ localProgram.CanList (FileSystem.textName "/no") := by
    rintro ⟨entries, hlist⟩
    have herror : localProgram.files.list localProgram.location (FileSystem.textName "/no")
        = .error (.system .noEntry) := rfl
    exact absurd (herror.symm.trans hlist) (by simp)
  have hrepeated : searchedDirectories (some (FileSystem.textName "/:/no:/"))
      = [FileSystem.textName "/", FileSystem.textName "/no", FileSystem.textName "/"] := by decide
  have halone : searchedDirectories (some (FileSystem.textName "/"))
      = [FileSystem.textName "/"] := by decide
  intro dir hlist
  rw [hrepeated, halone, List.mem_cons, List.mem_cons, List.mem_singleton]
  constructor
  · rintro (h | rfl | h)
    · exact h
    · exact absurd hlist hnot
    · exact h
  · exact .inl

end Machine

end LineShell
