import LineShell.Completion
import LineShell.FileSystem.Setup
import LineShell.Proofs.Command.Lookup
import LineShell.Proofs.FileSystem.Entries
import LineShell.Proofs.Text.Decoding

/-!
# Names that are offered and names that are found

A name is offered as a command if it begins as was asked for and is a builtin's, or is listed in a
directory of the search path and executable there (`mem_commandNames_iff`). It stands for something
if it is a builtin's, or if some directory of the search path has an executable file for it. The two
agree where all directories may be read, but for one: where the search path is unset, or has an empty
part, names are looked up in the working directory, and that is never listed
(`ne_notFound_iff_mem_commandNames`).

## What keeps them apart

An empty path can be put before a name but leads nowhere by itself. So the programs of the working
directory that only an empty part of the search path stands for are found and not offered
(`not_forall_mem_commandNames_iff`).
-/

namespace LineShell.Machine

variable {m : Machine} {start n : Text} {dir : Path} {searchPath : Option Bytes}

/-! ## What is offered -/

theorem mem_sortNames_iff {names : List Text} : n ∈ sortNames names ↔ n ∈ names := by
  rw [sortNames, List.mem_mergeSort, List.mem_eraseDups]

theorem mem_executablesIn_iff :
    n ∈ m.executablesIn dir ↔
      (∃ entries, m.files.list m.location dir = .ok entries ∧ Utf8.encode n ∈ entries) ∧
        m.isExecutable (dir.join (Utf8.encode n)) = true := by
  rw [executablesIn]
  rcases m.files.list m.location dir with e | entries
  · simp
  · simp only [List.mem_filterMap, List.mem_filter, Utf8.decode?_eq_some_iff]
    constructor
    · rintro ⟨bytes, ⟨hlist, hexec⟩, rfl⟩
      exact ⟨⟨entries, rfl, hlist⟩, hexec⟩
    · rintro ⟨⟨_, hentries, hlist⟩, hexec⟩
      obtain rfl := Except.ok.inj hentries
      exact ⟨_, ⟨hlist, hexec⟩, rfl⟩

/-- What is offered for a beginning. -/
theorem mem_commandNames_iff :
    n ∈ m.commandNames start searchPath ↔ start <+: n ∧ ((∃ b : Builtin, b.name = n) ∨
      ∃ dir ∈ (searchPath.map Path.directories).getD [], n ∈ m.executablesIn dir) := by
  have hbuiltin : n ∈ Builtin.all.map Builtin.name ↔ ∃ b : Builtin, b.name = n := by
    rw [List.mem_map]
    exact ⟨fun ⟨b, _, hb⟩ ↦ ⟨b, hb⟩, fun ⟨b, hb⟩ ↦ ⟨b, b.mem_all, hb⟩⟩
  rw [commandNames, mem_sortNames_iff, List.mem_filter, decide_eq_true_iff, List.mem_append,
    hbuiltin, List.mem_flatMap, and_comm]

/-! ## One directory -/

/-- An empty path is never listed. -/
theorem not_mem_executablesIn_nil : n ∉ m.executablesIn [] := by
  intro h
  obtain ⟨⟨entries, hlist, -⟩, -⟩ := mem_executablesIn_iff.1 h
  exact absurd hlist (by simp [FileSystem.list, FileSystem.locate, FileSystem.arrive,
    FileSystem.refusal?])

theorem isBare_encode (hslash : '/' ∉ n) : Path.IsBare (Utf8.encode n) :=
  Utf8.not_mem_encode hslash (by decide)

/-- In a directory that has a path, what can be executed is what is offered. -/
theorem mem_executablesIn_iff_isExecutable (hfs : m.files.WellFormed)
    (hread : m.files.AllReadable) (hl : m.files.Stands m.location) (hdir : dir ≠ []) (hn : n ≠ [])
    (hslash : '/' ∉ n) :
    n ∈ m.executablesIn dir ↔ m.isExecutable (dir.join (Utf8.encode n)) = true := by
  rw [mem_executablesIn_iff, and_iff_right_iff_imp]
  exact FileSystem.mem_list_of_isExecutable_join hfs hread hl hdir (isBare_encode hslash)
    (Utf8.encode_ne_nil hn)

/-! ## All directories -/

/-- An unset search path differs from one that is set to nothing only in the empty path. -/
theorem mem_directories_iff (hdir : dir ≠ []) :
    dir ∈ (searchPath.map Path.directories).getD [] ↔
      dir ∈ Path.directories (searchPath.getD []) := by
  rcases searchPath with _ | value
  · have hempty : Path.directories [] = [[]] := rfl
    rw [Option.map_none, Option.getD_none, Option.getD_none, hempty, List.mem_singleton]
    exact iff_of_false List.not_mem_nil hdir
  · rfl

/-- **Whatever stands for a command is offered, unless only an empty part of the search path leads
to it,** and nothing else is offered, where all directories may be read. -/
theorem ne_notFound_iff_mem_commandNames (hfs : m.files.WellFormed)
    (hread : m.files.AllReadable) (hl : m.files.Stands m.location) (hn : n ≠ [])
    (hslash : '/' ∉ n) (start : Text) :
    start <+: n ∧ (Command.ofName m.surroundings n).value ≠ .notFound ↔
      n ∈ m.commandNames start m.searchPath ∨
        start <+: n ∧ [] ∈ Path.directories (m.searchPath.getD []) ∧
          m.isExecutable (Utf8.encode n) = true := by
  have hjoin : Path.join [] (Utf8.encode n) = Utf8.encode n := by
    rw [Path.join, if_neg (Path.not_isAbsolute_of_isBare (isBare_encode hslash)), if_pos (.inl rfl)]
    rfl
  rw [Command.value_ofName_ne_notFound_iff, mem_commandNames_iff,
    Path.relative_of_isBare (isBare_encode hslash), ← and_or_left, or_assoc]
  refine and_congr_right fun _ ↦ or_congr_right ⟨?_, ?_⟩
  · rintro ⟨dir, hdir, hexec⟩
    by_cases hempty : dir = []
    · rw [hempty, hjoin] at hexec
      exact .inr ⟨hempty ▸ hdir, hexec⟩
    · exact .inl ⟨dir, (mem_directories_iff hempty).2 hdir,
        (mem_executablesIn_iff_isExecutable hfs hread hl hempty hn hslash).2 hexec⟩
  · rintro (⟨dir, hdir, hmem⟩ | ⟨hdir, hexec⟩)
    · have hne : dir ≠ [] := by
        rintro rfl
        exact not_mem_executablesIn_nil hmem
      exact ⟨dir, (mem_directories_iff hne).1 hdir, (mem_executablesIn_iff.1 hmem).2⟩
    · exact ⟨[], hdir, by rwa [hjoin]⟩

/-- A machine with a program in the directory where the shell stands, and no search path. -/
def localProgram : Machine where
  files := FileSystem.empty.insert ([] ++ [FileSystem.textName "local"]) (.file 0o755 .program)
  location := .root
  searchPath := none
  home := none
  behaviour _ := ⟨[], [], .exited 0⟩

theorem wellFormed_localProgram : localProgram.files.WellFormed :=
  FileSystem.wellFormed_empty.insert (by decide) (by decide) (by decide) (by simp)

theorem allReadable_localProgram : localProgram.files.AllReadable :=
  FileSystem.allReadable_empty.insert (by decide) (by decide)

/-- The program of that machine stands for a command. -/
theorem value_ofName_localProgram_ne_notFound :
    (Command.ofName localProgram.surroundings "local".toList).value ≠ .notFound :=
  ((ne_notFound_iff_mem_commandNames wellFormed_localProgram allReadable_localProgram
    ⟨0o755, rfl⟩ (by decide) (by decide) "lo".toList).2 (.inr ⟨by decide, by decide, by decide⟩)).2

/-- That program is found and not offered. -/
theorem not_forall_mem_commandNames_iff :
    ¬ ∀ (m : Machine) (start n : Text), m.files.WellFormed → m.files.AllReadable →
      m.files.Stands m.location → n ≠ [] → '/' ∉ n → (n ∈ m.commandNames start m.searchPath ↔
        start <+: n ∧ (Command.ofName m.surroundings n).value ≠ .notFound) := by
  intro h
  have hiff := h localProgram "lo".toList "local".toList wellFormed_localProgram
    allReadable_localProgram ⟨0o755, rfl⟩ (by decide) (by decide)
  have hfound : (Command.ofName localProgram.surroundings "local".toList).value ≠ .notFound := by
    decide
  have hmem := hiff.2 ⟨by decide, hfound⟩
  rcases (mem_commandNames_iff.1 hmem).2 with ⟨b, hb⟩ | ⟨dir, hdir, -⟩
  · revert hb
    cases b <;> decide
  · exact absurd hdir List.not_mem_nil

end LineShell.Machine
