import LineShell.Proofs.LineSource.Agreement
import LineShell.Proofs.Session.WholeRun

/-!
# Sessions on the same lines

What a session does is told by the lines that its source returns and by the error behind them. Only
its prompts are not, since how a source prompts is its own affair (`Session.run_agreesWith`). So two
sources that return the same lines can stand for each other. A reader of plain lines and a line
editor are such a pair on every text that has no carriage return and nothing to delete, if it is
empty or ends in a newline; and on other texts they differ in the newline of the last line alone
(`Session.editor_agreesWith_plainLines`).
-/

namespace LineShell

/-! ## Apart from prompts -/

/-- Whether an emission is a prompt. -/
def Emission.IsPrompt : Emission → Prop
  | .prompt _ => True
  | .out _ | .err _ | .event _ => False

instance : DecidablePred Emission.IsPrompt := fun emission ↦ by
  cases emission <;> unfold Emission.IsPrompt <;> infer_instance

namespace Transcript

/-- All that comes out of a run but prompts. -/
def withoutPrompts (t : Transcript) : Transcript := t.filter (¬ ·.IsPrompt)

theorem withoutPrompts_append (s t : Transcript) :
    withoutPrompts (s ++ t) = withoutPrompts s ++ withoutPrompts t :=
  List.filter_append ..

theorem flatMap_withoutPrompts {f : Emission → Bytes} (hf : ∀ bytes, f (.prompt bytes) = [])
    (t : Transcript) : t.withoutPrompts.flatMap f = t.flatMap f := by
  induction t with
  | nil => rfl
  | cons emission t ih =>
    rw [withoutPrompts, List.filter_cons, List.flatMap_cons, ← ih, withoutPrompts]
    rcases emission with bytes | bytes | bytes | event
    · rw [hf]
      rfl
    · rfl
    · rfl
    · rfl

theorem output_withoutPrompts (t : Transcript) : t.withoutPrompts.output = t.output :=
  flatMap_withoutPrompts (fun _ ↦ rfl) t

theorem stderr_withoutPrompts (f : Filter) (t : Transcript) :
    t.withoutPrompts.stderr f = t.stderr f :=
  flatMap_withoutPrompts (fun _ ↦ rfl) t

end Transcript

/-- Whether two sessions have come to the same, apart from what was shown as prompts and from what
their sources have left. -/
structure Ended.AgreesWith {σ τ : Type} (e : Ended σ) (e' : Ended τ) : Prop where
  /-- They have ended in the same way. -/
  result : e.result = e'.result
  /-- They have left the same files, and stand in the same place. -/
  machine : e.machine = e'.machine
  /-- The same came out, in the same order. -/
  transcript : e.transcript.withoutPrompts = e'.transcript.withoutPrompts

namespace Ended.AgreesWith

variable {σ τ : Type} {e : Ended σ} {e' : Ended τ}

theorem after {t t' : Transcript} (ht : t.withoutPrompts = t'.withoutPrompts)
    (h : e.AgreesWith e') : (e.after t).AgreesWith (e'.after t') where
  result := h.result
  machine := h.machine
  transcript := by
    rw [Ended.after, Ended.after, Transcript.withoutPrompts_append,
      Transcript.withoutPrompts_append, ht, h.transcript]

theorem output (h : e.AgreesWith e') : e.transcript.output = e'.transcript.output := by
  rw [← Transcript.output_withoutPrompts, h.transcript, Transcript.output_withoutPrompts]

theorem stderr (h : e.AgreesWith e') (f : Filter) :
    e.transcript.stderr f = e'.transcript.stderr f := by
  rw [← Transcript.stderr_withoutPrompts, h.transcript, Transcript.stderr_withoutPrompts]

end Ended.AgreesWith

namespace Session

variable {σ τ : Type} [LineSource σ] [LineSource τ]

/-! ## What a source returns -/

/-- A source that returns no line at all has an error for an answer. -/
theorem exists_readLine_of_readAll_nil {prompt : Text} {s : σ}
    (h : (LineSource.readAll prompt s).1 = []) :
    ∃ p s', LineSource.readLine prompt s = ⟨p, .error (LineSource.readAll prompt s).2.1, s'⟩ := by
  rcases hread : LineSource.readLine prompt s with ⟨p, e | line, s'⟩
  · exact ⟨p, s', by rw [LineSource.readAll_of_error hread]⟩
  · rw [LineSource.readAll_of_line hread] at h
    exact absurd h (List.cons_ne_nil _ _)

/-- A source that returns lines has the first of them for an answer, and then returns the others. -/
theorem exists_readLine_of_readAll_cons {prompt line : Text} {lines : List Text} {s : σ}
    (h : (LineSource.readAll prompt s).1 = line :: lines) :
    ∃ p s', LineSource.readLine prompt s = ⟨p, .ok line, s'⟩ ∧
      (LineSource.readAll prompt s').1 = lines ∧
      (LineSource.readAll prompt s').2.1 = (LineSource.readAll prompt s).2.1 := by
  rcases hread : LineSource.readLine prompt s with ⟨p, e | line', s'⟩
  · rw [LineSource.readAll_of_error hread] at h
    exact absurd h (by simp)
  · have hall := LineSource.readAll_of_line hread
    rw [hall] at h
    obtain ⟨rfl, rfl⟩ := List.cons.inj h
    exact ⟨p, s', rfl, rfl, by rw [hall]⟩

/-! ## What a session makes of it -/

theorem runBehind_agreesWith {prompt : Text} {s : σ} {s' : τ}
    (h : ∀ m, (run prompt s m).AgreesWith (run prompt s' m)) (o : Outcome Flow) :
    (runBehind prompt s o).AgreesWith (runBehind prompt s' o) := by
  rw [runBehind, runBehind]
  rcases verdict o.result with result | complaint
  · exact ⟨rfl, rfl, rfl⟩
  · exact (h o.machine).after rfl

/-- **A session is told by what its source returns,** apart from prompts. -/
theorem run_agreesWith (prompt : Text) {s : σ} {s' : τ}
    (hlines : (LineSource.readAll prompt s).1 = (LineSource.readAll prompt s').1)
    (hend : (LineSource.readAll prompt s).2.1 = (LineSource.readAll prompt s').2.1) (m : Machine) :
    (run prompt s m).AgreesWith (run prompt s' m) := by
  -- On the lines, each of which is run on the machine that the one before it leaves to both.
  induction h : (LineSource.readAll prompt s).1 generalizing s s' m with
  | nil =>
    obtain ⟨p, rest, hread⟩ := exists_readLine_of_readAll_nil h
    obtain ⟨p', rest', hread'⟩ := exists_readLine_of_readAll_nil (hlines.symm.trans h)
    rw [run_of_error hread, run_of_error hread', hend]
    exact ⟨rfl, rfl, rfl⟩
  | cons line lines ih =>
    obtain ⟨p, rest, hread, hrest, herror⟩ := exists_readLine_of_readAll_cons h
    obtain ⟨p', rest', hread', hrest', herror'⟩ :=
      exists_readLine_of_readAll_cons (hlines.symm.trans h)
    have hbehind (m : Machine) : (run prompt rest m).AgreesWith (run prompt rest' m) :=
      ih (hrest.trans hrest'.symm) (by rw [herror, herror', hend]) m hrest
    rw [run_of_line hread, run_of_line hread']
    exact ((runBehind_agreesWith hbehind _).after rfl).after rfl

/-! ## The two sources -/

/-- **A line editor and a reader of plain lines can stand for each other.** On a text that has no
carriage return and nothing to delete they return the same lines, except that the editor ends the
last one with a newline if the text does not; and both then come to the end of the input. So where
the text is empty or ends in a newline, the sessions on them end in the same way, leave the same
machine, and let the same out apart from prompts. -/
theorem editor_agreesWith_plainLines {ε : Type} [LineEditor ε]
    (htakes : LineEditor.TakesLines ε) {t : Text} (hreturn : '\r' ∉ t) (hdelete : '\x08' ∉ t)
    (prompt : Text) {pieces : List Bytes} {e : ε} (hpieces : pieces.flatten = Utf8.encode t)
    (hunread : LineEditor.unread e = Utf8.encode t) :
    let plain := LineSource.readAll prompt (PlainLines.ofPieces pieces)
    let edited := LineSource.readAll prompt e
    edited.1 = (if t.getLast? = some '\n' then plain.1 else plain.1.modifyLast (· ++ ['\n'])) ∧
      plain.2.1 = .endOfInput ∧ edited.2.1 = .endOfInput ∧
      (t = [] ∨ t.getLast? = some '\n' → edited.1 = plain.1 ∧ ∀ m,
        let overEdited := run prompt e m
        let overPlain := run prompt (PlainLines.ofPieces pieces) m
        overEdited.AgreesWith overPlain ∧
          overEdited.transcript.output = overPlain.transcript.output ∧
          ∀ f, overEdited.transcript.stderr f = overPlain.transcript.stderr f) := by
  intro plain edited
  obtain ⟨hlines, hplain, hedited⟩ :=
    LineEditor.readAll_editor_eq prompt htakes hreturn hdelete hpieces hunread
  refine ⟨hlines, hplain, hedited, ?_⟩
  intro hended
  have hsame : edited.1 = plain.1 := by
    rcases hended with rfl | hlast
    · -- No line at all, so there is no last one to be ended.
      have hnil : plain.1 = [] := by
        have hall := (PlainLines.readAll_ofPieces prompt pieces).1
        rwa [hpieces] at hall
      have hmodify : edited.1 = plain.1.modifyLast (· ++ ['\n']) := hlines
      rw [hmodify, hnil]
      rfl
    · exact hlines.trans (if_pos hlast)
  refine ⟨hsame, ?_⟩
  intro m overEdited overPlain
  have hagree : overEdited.AgreesWith overPlain :=
    run_agreesWith prompt hsame (hedited.trans hplain.symm) m
  exact ⟨hagree, hagree.output, hagree.stderr⟩

/-- A text of three lines, the second of which is blank. -/
def threeLines : Text := "echo a\n\nexit 3\n".toList

/-- The pieces in which a stream may hand that text out. -/
def threeLinesInPieces : List Bytes :=
  [Utf8.encode "echo a\n\nex".toList, Utf8.encode "it 3\n".toList]

theorem editor_agreesWith_threeLines :
    LineEditor.TakesLines EditedLines ∧ '\r' ∉ threeLines ∧ '\x08' ∉ threeLines ∧
      threeLinesInPieces.flatten = Utf8.encode threeLines ∧
      LineEditor.unread (⟨Utf8.encode threeLines⟩ : EditedLines) = Utf8.encode threeLines ∧
      (LineSource.readAll [] (⟨Utf8.encode threeLines⟩ : EditedLines)).1
        = ["echo a\n".toList, "\n".toList, "exit 3\n".toList] ∧
      ∀ m, (run [] (⟨Utf8.encode threeLines⟩ : EditedLines) m).AgreesWith
        (run [] (PlainLines.ofPieces threeLinesInPieces) m) := by
  have hreturn : '\r' ∉ threeLines := by decide
  have hdelete : '\x08' ∉ threeLines := by decide
  have hpieces : threeLinesInPieces.flatten = Utf8.encode threeLines := by decide
  obtain ⟨-, -, -, hsame⟩ := editor_agreesWith_plainLines EditedLines.takesLines hreturn hdelete []
    (e := (⟨Utf8.encode threeLines⟩ : EditedLines)) hpieces rfl
  obtain ⟨hlines, hruns⟩ := hsame (.inr (by decide))
  refine ⟨EditedLines.takesLines, hreturn, hdelete, hpieces, rfl, ?_, fun m ↦ (hruns m).1⟩
  rw [hlines, (PlainLines.readAll_ofPieces [] threeLinesInPieces).1]
  decide

end Session

end LineShell
