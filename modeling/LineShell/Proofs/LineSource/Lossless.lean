import LineShell.Proofs.LineSource.Lines
import LineShell.Proofs.Text.InvalidParts

/-!
# Reading lines loses nothing

A reader of lines decodes each line alone, and a character may be broken off by the newline behind
it, or by the piece in which the input happens to come. None of this shows: the lines put together
are the whole input decoded at once (`readAll_lossless`).

The reason is that a newline is an ASCII byte. Whatever the decoder has begun in front of it is a
fault, with the newline or with the end of the bytes behind it (`decodeLossy_append_newline`). All
that is said about the lines of an input is then an induction on its newlines (`lines_induction`).
-/

namespace LineShell

/-! ## Decoding at a newline -/

namespace Utf8

theorem decodeLossy_append_newline (bs rest : Bytes) :
    decodeLossy (bs ++ newline :: rest) = decodeLossy bs ++ '\n' :: decodeLossy rest := by
  rw [decodeLossy, scan_append_of_ascii bs (by decide) rest, List.map_append, List.map_cons]
  rfl

@[simp] theorem decodeLossy_nil : decodeLossy [] = [] := rfl

theorem decodeLossy_ne_nil {bs : Bytes} (h : bs ≠ []) : decodeLossy bs ≠ [] := by
  obtain ⟨piece, rest, hscan, -⟩ := exists_piece h
  rw [decodeLossy_of_scan hscan]
  exact List.cons_ne_nil _ _

/-- A character of decoded text other than U+FFFD stands in the bytes. -/
theorem subset_of_mem_decodeLossy {c : Char} {bs : Bytes} (h : c ∈ decodeLossy bs)
    (hc : c ≠ replacement) : encodeChar c ⊆ bs := by
  obtain ⟨piece, hmem, hpiece⟩ := List.mem_map.1 h
  rcases piece with d | part
  · obtain rfl : d = c := hpiece
    intro b hb
    rw [← flatMap_bytes_scan bs]
    exact List.mem_flatMap_of_mem hmem hb
  · exact absurd hpiece.symm hc

theorem newline_not_mem_decodeLossy {bs : Bytes} (h : newline ∉ bs) : '\n' ∉ decodeLossy bs := by
  intro hmem
  exact h (subset_of_mem_decodeLossy hmem (by decide) (List.mem_singleton_self newline))

end Utf8

/-! ## Decoding line by line -/

/-- Lines decoded one by one are the whole decoded at once. -/
theorem flatten_map_decodeLossy (bs : Bytes) :
    ((cutLines bs).map Utf8.decodeLossy).flatten = Utf8.decodeLossy bs := by
  induction bs using lines_induction with
  | last bs h =>
    by_cases hne : bs = []
    · rw [hne]
      rfl
    · rw [cutLines_of_not_mem h hne, List.map_singleton, List.flatten_singleton]
  | line body rest h ih =>
    rw [cutLines_append_newline h, List.map_cons, List.flatten_cons, ih,
      Utf8.decodeLossy_append_newline, Utf8.decodeLossy_append_newline, List.append_assoc]
    rfl

/-- Every line ends in its only newline. The last may have none, if there is something in it. -/
theorem exists_body_of_eq_append {bs : Bytes} {pre post : List Text} {line : Text}
    (h : (cutLines bs).map Utf8.decodeLossy = pre ++ line :: post) :
    ∃ body, '\n' ∉ body ∧ (line = body ++ ['\n'] ∨ line = body ∧ body ≠ [] ∧ post = []) := by
  induction bs using lines_induction generalizing pre with
  | last bs hbs =>
    by_cases hne : bs = []
    · rw [hne] at h
      exact absurd h (by simp)
    · rw [cutLines_of_not_mem hbs hne, List.map_singleton, List.singleton_eq_append_iff] at h
      obtain ⟨-, hline⟩ | ⟨-, hline⟩ := h
      · obtain ⟨rfl, rfl⟩ := List.cons.inj hline
        exact ⟨_, Utf8.newline_not_mem_decodeLossy hbs,
          .inr ⟨rfl, Utf8.decodeLossy_ne_nil hne, rfl⟩⟩
      · exact absurd hline (by simp)
  | line body rest hbody ih =>
    rw [cutLines_append_newline hbody, List.map_cons, Utf8.decodeLossy_append_newline] at h
    rcases pre with _ | ⟨first, pre⟩
    · obtain ⟨rfl, -⟩ := List.cons.inj h
      exact ⟨_, Utf8.newline_not_mem_decodeLossy hbody, .inl rfl⟩
    · exact ih (List.cons.inj h).2

namespace PlainLines

/-- **Reading lines loses nothing.** However the input comes in pieces, each line that is read is
not empty and has a newline at its end and nowhere else, but for the last, which may lack it; there
are as many lines as newlines, and one more if the input goes on behind the last; and the lines put
together are what the whole input is decoded to, with one U+FFFD for each invalid part. What comes
behind the last line is the end of the input. -/
theorem readAll_lossless (prompt : Text) (pieces : List Bytes) :
    let input := pieces.flatten
    let r := LineSource.readAll prompt (ofPieces pieces)
    (∀ pre line post, r.1 = pre ++ line :: post →
        ∃ body, '\n' ∉ body ∧ (line = body ++ ['\n'] ∨ line = body ∧ body ≠ [] ∧ post = [])) ∧
      r.1.length
        = input.count newline + (if input = [] ∨ input.getLast? = some newline then 0 else 1) ∧
      r.1.flatten = Utf8.decodeLossy input ∧ (∀ t, Utf8.DecodesTo input t ↔ t = r.1.flatten) ∧
      r.2.1 = .endOfInput := by
  intro input r
  obtain ⟨hlines, hend⟩ := readAll_ofPieces prompt pieces
  have hlines : r.1 = (cutLines input).map Utf8.decodeLossy := hlines
  have hflatten : r.1.flatten = Utf8.decodeLossy input := by
    rw [hlines, flatten_map_decodeLossy]
  refine ⟨?_, ?_, hflatten, ?_, hend⟩
  · intro pre line post hsplit
    rw [hlines] at hsplit
    exact exists_body_of_eq_append hsplit
  · rw [hlines, List.length_map, length_cutLines]
  · intro t
    rw [hflatten]
    exact Utf8.decodesTo_iff

end PlainLines

end LineShell
