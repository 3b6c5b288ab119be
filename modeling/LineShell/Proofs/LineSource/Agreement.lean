import LineShell.LineSource.Edited
import LineShell.Proofs.LineSource.Lines
import LineShell.Proofs.Text.Decoding
import Mathlib.Data.List.ModifyLast

/-!
# Two sources of the same lines

A reader of plain lines takes bytes up to a newline, keeps it, and decodes what it has; a line
editor takes text, and gives each line a newline of its own. On an input that is text, and that has
no carriage return and nothing to delete, they return the same lines, except that the editor ends a
last line that the input does not end (`readAll_editor_eq`). Then both report the end of the input.

Both are compared with a third account of the input, its lines as text: lines that are ended, and
what stands behind the last newline (`linesText`). Every text is such (`exists_linesText_eq`), and
an induction along the lines is one along either source.
-/

namespace LineShell

/-! ## The lines of a text -/

/-- Lines that are ended, and a text behind them. -/
def linesText (lines : List Text) (rest : Text) : Text := lines.flatMap (· ++ ['\n']) ++ rest

theorem linesText_cons (line : Text) (lines : List Text) (rest : Text) :
    linesText (line :: lines) rest = line ++ '\n' :: linesText lines rest := by
  simp [linesText]

/-- Every text is some lines that are ended, and what stands behind the last newline. -/
theorem exists_linesText_eq (t : Text) :
    ∃ lines rest, linesText lines rest = t ∧ (∀ line ∈ lines, '\n' ∉ line) ∧ '\n' ∉ rest := by
  induction t with
  | nil => exact ⟨[], [], rfl, by simp, by simp⟩
  | cons c t ih =>
    obtain ⟨lines, rest, rfl, hlines, hrest⟩ := ih
    by_cases hc : c = '\n'
    · subst hc
      exact ⟨[] :: lines, rest, rfl, List.forall_mem_cons.mpr ⟨by simp, hlines⟩, hrest⟩
    · -- The character goes in front of the first line, or of the rest if there is no line.
      rcases lines with _ | ⟨line, lines⟩
      · exact ⟨[], c :: rest, rfl, by simp, by simp [Ne.symm hc, hrest]⟩
      · obtain ⟨hline, hlines⟩ := List.forall_mem_cons.mp hlines
        exact ⟨(c :: line) :: lines, rest, rfl,
          List.forall_mem_cons.mpr ⟨by simp [Ne.symm hc, hline], hlines⟩, hrest⟩

theorem getLast?_linesText (lines : List Text) {rest : Text} (h : '\n' ∉ rest) :
    (linesText lines rest).getLast? = some '\n' ↔ lines ≠ [] ∧ rest = [] := by
  rcases List.eq_nil_or_concat rest with rfl | ⟨rest, c, rfl⟩
  · rw [linesText, List.append_nil]
    rcases List.eq_nil_or_concat lines with rfl | ⟨lines, line, rfl⟩ <;> simp
  · have hc : c ≠ '\n' := by
      rintro rfl
      exact h (by simp)
    rw [linesText, List.concat_eq_append, ← List.append_assoc, List.getLast?_concat]
    simp [hc]

/-! ### Their bytes -/

theorem cutLine_encode {line : Text} (h : '\n' ∉ line) :
    cutLine (Utf8.encode line) = (Utf8.encode line, []) := by
  have hcut := cutLine_append_of_not_mem (Utf8.not_mem_encode h (by decide)) []
  rwa [List.append_nil, cutLine_nil, List.append_nil] at hcut

theorem cutLine_encode_append {line : Text} (h : '\n' ∉ line) (t : Text) :
    cutLine (Utf8.encode (line ++ '\n' :: t)) = (Utf8.encode (line ++ ['\n']), Utf8.encode t) := by
  have hnewline : Utf8.encodeChar '\n' = [newline] := rfl
  rw [Utf8.encode_append, cutLine_append_of_not_mem (Utf8.not_mem_encode h (by decide)),
    Utf8.encode_cons, hnewline, List.singleton_append, cutLine, if_pos rfl, Utf8.encode_append,
    Utf8.encode_cons, hnewline]
  rfl

theorem cutLines_encode_linesText {lines : List Text} {rest : Text}
    (hlines : ∀ line ∈ lines, '\n' ∉ line) (hrest : '\n' ∉ rest) :
    cutLines (Utf8.encode (linesText lines rest))
      = (lines.map (· ++ ['\n']) ++ [rest].filter (· ≠ [])).map Utf8.encode := by
  induction lines with
  | nil =>
    rw [linesText, List.flatMap_nil, List.nil_append]
    by_cases hnil : rest = []
    · subst hnil
      rfl
    · rw [cutLines_of_ne_nil (Utf8.encode_ne_nil hnil), cutLine_encode hrest, cutLines_nil]
      simp [hnil]
  | cons line lines ih =>
    obtain ⟨hline, hlines⟩ := List.forall_mem_cons.mp hlines
    rw [linesText_cons, cutLines_of_ne_nil (Utf8.encode_ne_nil (by simp)),
      cutLine_encode_append hline, ih hlines]
    rfl

/-! ## Plain lines -/

/-- A reader of plain lines returns the lines of a text as they stand in it. -/
theorem readAll_ofPieces_linesText (prompt : Text) {pieces : List Bytes} {lines : List Text}
    {rest : Text} (hlines : ∀ line ∈ lines, '\n' ∉ line) (hrest : '\n' ∉ rest)
    (h : pieces.flatten = Utf8.encode (linesText lines rest)) :
    (LineSource.readAll prompt (PlainLines.ofPieces pieces)).1
      = lines.map (· ++ ['\n']) ++ [rest].filter (· ≠ []) := by
  have hdecode : Utf8.decodeLossy ∘ Utf8.encode = id := funext Utf8.decodeLossy_encode
  rw [(PlainLines.readAll_ofPieces prompt pieces).1, h, cutLines_encode_linesText hlines hrest,
    List.map_map, hdecode, List.map_id]

/-! ## Edited lines -/

namespace LineEditor

/-! ### Without the end -/

theorem withoutEnd_encode {line : Text} (h : '\n' ∉ line) :
    withoutEnd (Utf8.encode line) = Utf8.encode line := by
  rw [withoutEnd, if_neg]
  intro hlast
  exact Utf8.not_mem_encode h (by decide) (List.mem_of_getLast? hlast)

theorem withoutEnd_encode_append {line : Text} (h : '\r' ∉ line) :
    withoutEnd (Utf8.encode (line ++ ['\n'])) = Utf8.encode line := by
  have hnewline : Utf8.encode ['\n'] = [newline] := rfl
  have hreturn : (Utf8.encode line).getLast? ≠ some carriageReturn := by
    intro hlast
    exact Utf8.not_mem_encode h (by decide) (List.mem_of_getLast? hlast)
  rw [withoutEnd, Utf8.encode_append, hnewline, List.getLast?_concat, if_pos rfl,
    List.dropLast_concat]
  exact if_neg hreturn

/-! ### Line by line -/

variable {ε : Type} [LineEditor ε] (prompt : Text) {e : ε}

/-- The end of the input is the end of the lines. -/
theorem readLine_of_eq_nil (htakes : TakesLines ε) (h : unread e = []) :
    ∃ e' : ε, LineSource.readLine prompt e = ⟨[], .error .endOfInput, e'⟩ := by
  refine ⟨(edit prompt e).2, ?_⟩
  change Reading.mk [] (lineOfEditor (edit prompt e).1) _ = _
  rw [htakes.edit_of_eq_nil prompt h]
  rfl

/-- What the editor takes from its input comes with a newline. -/
theorem readLine_of_cutLine (htakes : TakesLines ε) {line : Text} {first rest : Bytes}
    (hcut : cutLine (unread e) = (first, rest)) (hne : first ≠ [])
    (hline : withoutEnd first = Utf8.encode line) (hdelete : backspace ∉ first) :
    ∃ e' : ε, unread e' = rest ∧
      LineSource.readLine prompt e = ⟨[], .ok (line ++ ['\n']), e'⟩ := by
  have hunread : unread e ≠ [] := by
    intro hnil
    rw [hnil, cutLine_nil] at hcut
    exact hne (Prod.mk.inj hcut).1.symm
  obtain ⟨hfirst, hrest⟩ := Prod.mk.inj hcut
  have hdecode : Utf8.decode? (withoutEnd (cutLine (unread e)).1) = some line := by
    rw [hcut, hline, Utf8.decode?_encode]
  obtain ⟨hedit, hafter⟩ := htakes.edit_of_ne_nil prompt hunread hdecode (by rwa [hcut])
  refine ⟨(edit prompt e).2, by rw [hafter, hcut], ?_⟩
  change Reading.mk [] (lineOfEditor (edit prompt e).1) _ = _
  rw [hedit]
  rfl

/-- An editor returns the lines of a text, each with a newline, and then the end of them. -/
theorem readAll_linesText (htakes : TakesLines ε) {lines : List Text} {rest : Text}
    (hlines : ∀ line ∈ lines, '\n' ∉ line) (hrest : '\n' ∉ rest)
    (hreturn : '\r' ∉ linesText lines rest) (hdelete : '\x08' ∉ linesText lines rest)
    (h : unread e = Utf8.encode (linesText lines rest)) :
    (LineSource.readAll prompt e).1 = (lines ++ [rest].filter (· ≠ [])).map (· ++ ['\n']) ∧
      (LineSource.readAll prompt e).2.1 = .endOfInput := by
  induction lines generalizing e with
  | nil =>
    rw [linesText, List.flatMap_nil, List.nil_append] at hdelete h
    by_cases hnil : rest = []
    · subst hnil
      obtain ⟨e', hread⟩ := readLine_of_eq_nil prompt htakes h
      rw [LineSource.readAll_of_error hread]
      exact ⟨rfl, rfl⟩
    · -- What stands behind the last newline is one line more, and then nothing is left.
      have hcut : cutLine (unread e) = (Utf8.encode rest, []) := by rw [h, cutLine_encode hrest]
      obtain ⟨e', hunread, hread⟩ := readLine_of_cutLine prompt htakes hcut
        (Utf8.encode_ne_nil hnil) (withoutEnd_encode hrest)
        (Utf8.not_mem_encode hdelete (by decide))
      obtain ⟨e'', hend⟩ := readLine_of_eq_nil prompt htakes hunread
      rw [LineSource.readAll_of_line hread, LineSource.readAll_of_error hend]
      simp [hnil]
  | cons line lines ih =>
    obtain ⟨hline, hlines⟩ := List.forall_mem_cons.mp hlines
    rw [linesText_cons] at hreturn hdelete h
    simp only [List.mem_append, List.mem_cons, not_or] at hreturn hdelete
    have hcut : cutLine (unread e)
        = (Utf8.encode (line ++ ['\n']), Utf8.encode (linesText lines rest)) := by
      rw [h, cutLine_encode_append hline]
    obtain ⟨e', hunread, hread⟩ := readLine_of_cutLine prompt htakes hcut
      (Utf8.encode_ne_nil (by simp)) (withoutEnd_encode_append hreturn.1)
      (Utf8.not_mem_encode (c := '\x08') (by simp [hdelete.1]) (by decide))
    obtain ⟨hall, hend⟩ := ih hlines hreturn.2.2 hdelete.2.2 hunread
    rw [LineSource.readAll_of_line hread, hall]
    exact ⟨rfl, hend⟩

/-! ### Both together -/

/-- **The editor returns the lines that a reader of plain lines returns,** with a newline behind the
last one if the input does not end in one; and both then come to the end of the input. -/
theorem readAll_editor_eq (htakes : TakesLines ε) {t : Text} {pieces : List Bytes}
    (hreturn : '\r' ∉ t) (hdelete : '\x08' ∉ t) (hpieces : pieces.flatten = Utf8.encode t)
    (hunread : unread e = Utf8.encode t) :
    let plain := LineSource.readAll prompt (PlainLines.ofPieces pieces)
    let edited := LineSource.readAll prompt e
    edited.1 = (if t.getLast? = some '\n' then plain.1 else plain.1.modifyLast (· ++ ['\n'])) ∧
      plain.2.1 = .endOfInput ∧ edited.2.1 = .endOfInput := by
  intro plain edited
  obtain ⟨lines, rest, rfl, hlines, hrest⟩ := exists_linesText_eq t
  obtain ⟨hedited, hend⟩ := readAll_linesText prompt htakes hlines hrest hreturn hdelete hunread
  have hplain : plain.1 = lines.map (· ++ ['\n']) ++ [rest].filter (· ≠ []) :=
    readAll_ofPieces_linesText prompt hlines hrest hpieces
  refine ⟨?_, (PlainLines.readAll_ofPieces prompt pieces).2, hend⟩
  have hended := getLast?_linesText lines hrest
  rw [hplain]
  by_cases hnil : rest = []
  · subst hnil
    by_cases hlines : lines = []
    · subst hlines
      rw [hedited, if_neg (by simp [hended])]
      rfl
    · rw [hedited, if_pos (hended.mpr ⟨hlines, rfl⟩)]
      simp
  · have hlast : [rest].filter (· ≠ []) = [rest] := by simp [hnil]
    rw [hedited, if_neg (by simp [hended, hnil]), hlast, List.modifyLast_concat, List.map_append]
    rfl

end LineEditor

end LineShell
