import LineShell.Proofs.Shell.Effects
import LineShell.Proofs.Token.WrittenLine
import LineShell.Token.Grammar

/-!
# Operators and quotes

The words of a line carry no trace of how they were written, and redirections are looked for among
the words. So a `>` in quotes, or behind a backslash, does redirect if it is a word by itself, just
as a bare one does, and a bare one does not if it is a part of a word. Whether a target is opened,
and which, is settled by the words alone (`runLine_operators`). Of lines in which every `>` is
quoted or escaped it would be wrong to say that they open none (`not_forall_quoted_protects`).

## Targets in a transcript

Of each target that is about to be opened an event tells, and commands have no such events
(`targets_eq_nil`). What a transcript says of targets is therefore said of the line.
-/

namespace LineShell

/-- The redirection target that an emission tells of, if it does. -/
def Emission.target? : Emission → Option Text
  | .event (.redirecting target) => some target
  | _ => none

namespace Transcript

/-- The redirection targets that a transcript tells of. -/
def targets (t : Transcript) : List Text := t.filterMap Emission.target?

@[simp] theorem targets_append (s t : Transcript) : targets (s ++ t) = targets s ++ targets t :=
  List.filterMap_append

/-- No command tells of a target. -/
theorem targets_eq_nil {t : Transcript} (h : ∀ e ∈ t, e.IsOfCommand) : t.targets = [] := by
  refine List.filterMap_eq_nil_iff.2 fun e he ↦ ?_
  have he := h e he
  rcases e with bytes | bytes | bytes | event
  · rfl
  · rfl
  · rfl
  · cases event with
    | redirecting target => exact absurd he id
    | _ => rfl

end Transcript

namespace Shell

open Token (Written writtenLine)

variable {words : List Text}

/-! ## Lines -/

theorem targets_execute_of_forall_dropLast_not (m : Machine)
    (h : ∀ w ∈ words.dropLast, ¬ IsOperator w) : (execute m words).transcript.targets = [] := by
  rcases words with _ | ⟨name, rest⟩
  · rfl
  · rw [execute_of_forall_dropLast_not (List.cons_ne_nil name rest) h]
    exact Transcript.targets_eq_nil (isOfCommand_dispatch m .stdout name rest)

theorem targets_execute_of_redirectsTo (m : Machine) {args : List Text} {target : Text}
    (h : RedirectsTo words args target) : (execute m words).transcript.targets = [target] := by
  rcases hopen : m.files.openToWrite m.location (Utf8.encode target) with cause | ⟨handle, files⟩
  · rw [execute_of_redirectsTo_of_error h hopen]
    rfl
  · rw [execute_of_redirectsTo h hopen, Outcome.transcript_after, Transcript.targets_append]
    refine congrArg ([target] ++ ·) ?_
    rcases args with _ | ⟨name, rest⟩
    · rfl
    · rw [if_neg (List.cons_ne_nil name rest)]
      exact Transcript.targets_eq_nil (isOfCommand_dispatch _ _ name rest)

/-- **Operators redirect, however they are written.** A line opens a target exactly if one of its
words but the last is an operator, and it is the word behind the first of them; what can then be
done with the target decides on the rest. If there is no such word, no file has changed, and all
words are the arguments of a command that writes to standard output. With every word in quotes, or
behind backslashes, the line does the same. -/
theorem runLine_operators (m : Machine) (line : Text) :
    let words := tokenize line
    let o := runLine m line
    (o.transcript.targets ≠ [] ↔ ∃ w ∈ words.dropLast, IsOperator w) ∧
      (∀ target, o.transcript.targets = [target] ↔ ∃ args, RedirectsTo words args target) ∧
      (∀ args target, RedirectsTo words args target →
        (∀ cause, m.files.openToWrite m.location (Utf8.encode target) = .error cause →
          o = ⟨.error (.error (.redirect target cause)), m, [.event (.redirecting target)]⟩) ∧
        ∀ handle files,
          m.files.openToWrite m.location (Utf8.encode target) = .ok (handle, files) →
          o = Outcome.after [.event (.redirecting target)]
            (if args = [] then ⟨.ok .proceed, { m with files }, []⟩
              else dispatch { m with files } (.opened handle) args)) ∧
      ((∀ w ∈ words.dropLast, ¬ IsOperator w) →
        o.machine.files = m.files ∧ (words ≠ [] → o = dispatch m .stdout words)) ∧
      ∀ lead ws trail ended, ws.map Written.word = words →
        runLine m (writtenLine lead ws trail ended) = o := by
  intro words o
  have hnone (h : ∀ w ∈ words.dropLast, ¬ IsOperator w) : o.transcript.targets = [] :=
    targets_execute_of_forall_dropLast_not m h
  have hsome {args target} (h : RedirectsTo words args target) : o.transcript.targets = [target] :=
    targets_execute_of_redirectsTo m h
  refine ⟨⟨fun h ↦ ?_, ?_⟩, fun target ↦ ⟨fun h ↦ ?_, ?_⟩, fun args target hto ↦ ⟨?_, ?_⟩,
    fun h ↦ ?_, ?_⟩
  · by_contra hno
    exact h (hnone fun w hw hop ↦ hno ⟨w, hw, hop⟩)
  · rintro ⟨w, hw, hop⟩
    rcases redirectsTo_or words with h | ⟨args, target, hto⟩
    · exact absurd hop (h w hw)
    · rw [hsome hto]
      exact List.cons_ne_nil _ _
  · rcases redirectsTo_or words with hno | ⟨args, target', hto⟩
    · exact absurd ((hnone hno).symm.trans h) (List.cons_ne_nil _ _).symm
    · obtain rfl := List.singleton_inj.1 ((hsome hto).symm.trans h)
      exact ⟨args, hto⟩
  · rintro ⟨args, hto⟩
    exact hsome hto
  · intro cause hopen
    exact execute_of_redirectsTo_of_error hto hopen
  · intro handle files hopen
    exact execute_of_redirectsTo hto hopen
  · refine ⟨?_, fun hne ↦ execute_of_forall_dropLast_not hne h⟩
    rcases files_execute m words with hfiles | ⟨args, target, place, hto, -⟩
    · exact hfiles
    · exact absurd ((hnone h).symm.trans (hsome hto)) (List.cons_ne_nil _ _).symm
  · intro lead ws trail ended hwords
    have hsame : tokenize (writtenLine lead ws trail ended) = words :=
      (Token.tokenize_writtenLine lead ws trail ended).trans hwords
    rw [runLine, hsame]
    rfl

/-- A machine without files, programs or variables. -/
def bareMachine : Machine where
  files := .empty
  location := .root
  searchPath := none
  home := none
  behaviour _ := ⟨[], [], .exited 0⟩

/-- The line `echo '>' f` by its parts. -/
def quotedOperator : Token.Line where
  items := [.bare 'e', .bare 'c', .bare 'h', .bare 'o', .separator ' ', .single ['>'],
    .separator ' ', .bare 'f']
  ending := .complete

/-- Quotes do not protect an operator: `echo '>' f` opens `f`. -/
theorem not_forall_quoted_protects :
    ¬ ∀ (l : Token.Line) (m : Machine), l.Valid → Token.Item.bare '>' ∉ l.items →
      let o := runLine m l.render
      o.transcript.targets = [] ∧ o.machine.files = m.files ∧
        (tokenize l.render ≠ [] → o = dispatch m .stdout (tokenize l.render)) := by
  intro h
  have hvalid : quotedOperator.Valid := by
    refine ⟨?_, trivial⟩
    intro i hi
    simp only [quotedOperator, List.mem_cons, List.not_mem_nil, or_false] at hi
    rcases hi with rfl | rfl | rfl | rfl | rfl | rfl | rfl | rfl
    all_goals simp [Token.Item.Valid, Token.IsSeparator]
  have htargets := (h quotedOperator bareMachine hvalid (by decide)).1
  exact absurd htargets (by decide)

end Shell

end LineShell
