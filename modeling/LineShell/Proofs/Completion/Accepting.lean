import LineShell.Proofs.Completion.Boundaries
import LineShell.Proofs.Completion.Offering
import LineShell.Proofs.Token.PlainWords
import LineShell.Proofs.Token.WrittenLine

/-!
# Accepting a completion

To accept a candidate is to put it in the place of the unfinished word. For the name of a command
that is the name as it is, with a space behind it: nothing is quoted. So a name with special
characters is offered, but a line that is completed by it does not run that command. The line does
so exactly for the names without special characters (`tokenize_accept?_iff`).
-/

namespace LineShell

/-- A line with a candidate accepted at a byte position: what stands from where the word begins up to
the position has given way to the replacement. -/
def Completion.accept? (completion : Completion) (line : Text) (pos : Nat)
    (candidate : Candidate) : Option Text := do
  let (before, _) ← Utf8.splitAtByte? completion.start line
  let (_, behind) ← Utf8.splitAtByte? pos line
  return before ++ candidate.replacement ++ behind

/-- A candidate comes between what stands before the word and what stands behind it. -/
theorem Completion.accept?_append (before word behind : Text) (candidates : List Candidate)
    (candidate : Candidate) :
    Completion.accept? ⟨Utf8.size before, candidates⟩ (before ++ word ++ behind)
        (Utf8.size (before ++ word)) candidate
      = some (before ++ candidate.replacement ++ behind) := by
  have hstart : Utf8.splitAtByte? (Utf8.size before) (before ++ word ++ behind)
      = some (before, word ++ behind) := by
    rw [List.append_assoc]
    exact Utf8.splitAtByte?_size_append before (word ++ behind)
  rw [accept?, hstart, Utf8.splitAtByte?_size_append]
  rfl

namespace Machine

variable {before : Text}

/-- Behind blanks the names of commands are offered. -/
theorem complete?_of_isBlank (m : Machine) (files : FileCompleter) (hblank : isBlank (beforeLastWord before) = true)
    (behind : Text) :
    m.complete? files (before ++ behind) (Utf8.size before)
      = some (.ok ⟨Utf8.size (beforeLastWord before),
          (m.commandNames (lastWord before) m.searchPath).map Candidate.ofCommand⟩) := by
  rw [complete?, Utf8.splitAtByte?_size_append, Option.map_some]
  simp only [hblank, if_true]

theorem isBlank_of_forall_eq {t : Text} (h : ∀ c ∈ t, c = ' ') : isBlank t = true := by
  rw [isBlank_iff]
  intro c hc
  rw [h c hc]
  decide

/-- Spaces before a name do not change how it is read. -/
theorem tokenize_append_of_forall_eq {t : Text} (h : ∀ c ∈ t, c = ' ') (u : Text) :
    tokenize (t ++ u) = tokenize u := by
  rw [List.eq_replicate_of_mem h]
  exact Token.tokenize_replicate_append t.length u

/-- **A line that is completed by a command names that command exactly if it is spelled without
special characters.** Where only spaces stand before the word at the end of a line, there is a
completion, and each of its candidates can be accepted. The line is then read as what the candidate
shows, and as nothing else, if there is no special character in that; and otherwise its first word is
another. -/
theorem tokenize_accept?_iff (m : Machine) (files : FileCompleter) {text : Text}
    (hspaces : ∀ c ∈ beforeLastWord text, c = ' ') :
    ∃ completion, m.complete? files text (Utf8.size text) = some (.ok completion) ∧
      ∀ candidate ∈ completion.candidates, ∃ accepted,
        completion.accept? text (Utf8.size text) candidate = some accepted ∧
          (tokenize accepted = [candidate.display] ↔
            ∀ c ∈ candidate.display, ¬ Token.IsSpecial c) ∧
          ((tokenize accepted).head? = some candidate.display ↔
            ∀ c ∈ candidate.display, ¬ Token.IsSpecial c) := by
  have hcomplete := m.complete?_of_isBlank files (isBlank_of_forall_eq hspaces) []
  rw [List.append_nil] at hcomplete
  refine ⟨_, hcomplete, ?_⟩
  intro candidate hcandidate
  obtain ⟨name, hname, rfl⟩ := List.mem_map.1 hcandidate
  have hne : name ≠ [] := ne_nil_of_mem_commandNames hname
  have haccept := Completion.accept?_append (beforeLastWord text) (lastWord text) []
    ((m.commandNames (lastWord text) m.searchPath).map Candidate.ofCommand)
    (Candidate.ofCommand name)
  rw [List.append_nil, List.append_nil, beforeLastWord_append_lastWord] at haccept
  refine ⟨_, haccept, ?_⟩
  rw [tokenize_append_of_forall_eq hspaces]
  exact ⟨Token.tokenize_append_space_eq_iff hne, Token.head?_tokenize_append_space_iff hne⟩

/-- A machine with a program that has a space in its name. -/
def spacedProgram : Machine where
  files := FileSystem.empty.insert [FileSystem.textName "a b"] (.file 0o755 .program)
  location := .root
  searchPath := some (FileSystem.textName "/")
  home := none
  behaviour _ := ⟨[], [], .exited 0⟩

/-- That program is offered, and the line that is completed by its name runs another. -/
theorem tokenize_accept?_spacedProgram :
    (∀ c ∈ beforeLastWord "  a".toList, c = ' ') ∧
      ∃ completion,
        spacedProgram.complete? (fun _ _ ↦ .error .endOfFile) "  a".toList 3
          = some (.ok completion) ∧
        Candidate.ofCommand "a b".toList ∈ completion.candidates ∧ ∃ accepted,
          completion.accept? "  a".toList 3 (Candidate.ofCommand "a b".toList) = some accepted ∧
            (tokenize accepted).head? ≠ some "a b".toList := by
  have hspaces : ∀ c ∈ beforeLastWord "  a".toList, c = ' ' := by simp [beforeLastWord]
  obtain ⟨completion, hcomplete, haccept⟩ := tokenize_accept?_iff spacedProgram _ hspaces
  have hoffered : "a b".toList ∈ spacedProgram.commandNames "a".toList spacedProgram.searchPath :=
    mem_commandNames_iff_listsExecutable.2 ⟨by decide, .inr ⟨FileSystem.textName "/", by decide,
      [FileSystem.textName "a b"], by rfl, by decide, by decide⟩⟩
  have hcandidate : Candidate.ofCommand "a b".toList ∈ completion.candidates := by
    have hblank := spacedProgram.complete?_of_isBlank (fun _ _ ↦ .error .endOfFile)
      (isBlank_of_forall_eq hspaces) []
    obtain rfl := Except.ok.inj (Option.some.inj (hblank.symm.trans hcomplete))
    exact List.mem_map_of_mem hoffered
  obtain ⟨accepted, haccepted, -, hfirst⟩ := haccept _ hcandidate
  refine ⟨hspaces, completion, hcomplete, hcandidate, accepted, haccepted, ?_⟩
  intro hhead
  exact hfirst.1 hhead ' ' (by decide) (by decide)

end Machine

end LineShell
