import LineShell.LineSource.Plain

/-!
# The lines of an input

What a reader of lines is going to return can be told from the whole input: `cutLines` takes it
apart at its newlines, and each line keeps the newline that ends it. A stream that ends gives all of
them, and one that fails those that end in a newline (`StreamEnd.lines`). A reader whose prompt goes
through returns the first of them, decoded, and leaves the others (`readLine_of_cons`); when none is
left, it meets what comes behind its input (`readLine_of_nil`). So it returns these lines, one after
the other, for as long as its prompts go through (`exists_reads`), and all of them if nothing stops
it (`readAll_ofPieces`).

The recursion of `cutLines` is on the bytes, and not on what is left behind a line, so that it can
be computed. What is said about lines is proved by another induction, from newline to newline
(`lines_induction`).
-/

namespace LineShell

/-- The lines of some bytes, each with the newline that ends it. The last one may have none. -/
def cutLines : Bytes → List Bytes
  | [] => []
  | b :: bs =>
    if b = newline then [b] :: cutLines bs
    else match cutLines bs with
      | [] => [[b]]
      | line :: lines => (b :: line) :: lines

@[simp] theorem cutLines_nil : cutLines [] = [] := rfl

theorem cutLines_of_ne_nil {bs : Bytes} (h : bs ≠ []) :
    cutLines bs = (cutLine bs).1 :: cutLines (cutLine bs).2 := by
  induction bs with
  | nil => exact absurd rfl h
  | cons b bs ih =>
    rw [cutLines, cutLine]
    by_cases hb : b = newline
    · rw [if_pos hb, if_pos hb]
    · rw [if_neg hb, if_neg hb]
      by_cases hbs : bs = []
      · rw [hbs]
        rfl
      · rw [ih hbs]

theorem flatten_cutLines (bs : Bytes) : (cutLines bs).flatten = bs := by
  induction bs with
  | nil => rfl
  | cons b bs ih =>
    rw [cutLines]
    split
    · rw [List.flatten_cons, ih]
      rfl
    · split
      · next hnil =>
        rw [hnil] at ih
        rw [← ih]
        rfl
      · next line lines hcons =>
        rw [hcons, List.flatten_cons] at ih
        rw [List.flatten_cons, List.cons_append, ih]

/-! ## Induction on the newlines -/

/-- What holds of bytes without a newline, and of a line in front of bytes of which it holds, holds
of all bytes. -/
@[elab_as_elim]
theorem lines_induction {motive : Bytes → Prop} (last : ∀ bs, newline ∉ bs → motive bs)
    (line : ∀ body rest, newline ∉ body → motive rest → motive (body ++ newline :: rest))
    (bs : Bytes) : motive bs := by
  induction hlen : bs.length using Nat.strongRecOn generalizing bs with
  | ind n ih =>
    by_cases h : newline ∈ bs
    · obtain ⟨body, rest, rfl, hbody⟩ := List.eq_append_cons_of_mem h
      rw [List.length_append, List.length_cons] at hlen
      exact line body rest hbody (ih rest.length (by omega) rest rfl)
    · exact last bs h

theorem cutLine_of_not_mem {bs : Bytes} (h : newline ∉ bs) : cutLine bs = (bs, []) := by
  have hcut := cutLine_append_of_not_mem h []
  rwa [cutLine_nil, List.append_nil] at hcut

theorem cutLine_append_newline {body : Bytes} (h : newline ∉ body) (rest : Bytes) :
    cutLine (body ++ newline :: rest) = (body ++ [newline], rest) := by
  rw [cutLine_append_of_not_mem h]
  rfl

theorem cutLines_of_not_mem {bs : Bytes} (h : newline ∉ bs) (hne : bs ≠ []) :
    cutLines bs = [bs] := by
  rw [cutLines_of_ne_nil hne, cutLine_of_not_mem h]
  rfl

theorem cutLines_append_newline {body : Bytes} (h : newline ∉ body) (rest : Bytes) :
    cutLines (body ++ newline :: rest) = (body ++ [newline]) :: cutLines rest := by
  have hne : body ++ newline :: rest ≠ [] := List.append_ne_nil_of_right_ne_nil _ (by simp)
  rw [cutLines_of_ne_nil hne, cutLine_append_newline h]

/-- There are as many lines as newlines, and one more if something is left behind the last. -/
theorem length_cutLines (bs : Bytes) :
    (cutLines bs).length
      = bs.count newline + if bs = [] ∨ bs.getLast? = some newline then 0 else 1 := by
  induction bs using lines_induction with
  | last bs h =>
    by_cases hne : bs = []
    · rw [hne]
      rfl
    · have hlast : bs.getLast? ≠ some newline := fun hlast ↦ h (List.mem_of_getLast? hlast)
      rw [cutLines_of_not_mem h hne, List.count_eq_zero_of_not_mem h, if_neg (by simp [hne, hlast])]
      rfl
  | line body rest h ih =>
    have hend : (body ++ newline :: rest = [] ∨
        (body ++ newline :: rest).getLast? = some newline) ↔
          rest = [] ∨ rest.getLast? = some newline := by
      rcases rest with _ | ⟨b, rest⟩ <;> simp
    rw [cutLines_append_newline h, List.length_cons, ih, List.count_append,
      List.count_eq_zero_of_not_mem h, List.count_cons_self]
    simp only [hend]
    omega

/-! ## What a stream gives -/

namespace StreamEnd

/-- The lines that a stream of some bytes gives. What stands behind the last newline is one of them
only if the stream ends. -/
def lines (input : Bytes) : StreamEnd → List Bytes
  | .ended => cutLines input
  | .failed _ => (cutLines input).filter (newline ∈ ·)

/-- What a reader answers when no further line is given. -/
def error : StreamEnd → ShellError
  | .ended => .endOfInput
  | .failed cause => .readInput cause

theorem isFatal_error (ending : StreamEnd) : ending.error.IsFatal := by
  rcases ending with _ | cause <;> exact trivial

theorem lines_append_newline {body : Bytes} (h : newline ∉ body) (rest : Bytes)
    (ending : StreamEnd) :
    ending.lines (body ++ newline :: rest) = (body ++ [newline]) :: ending.lines rest := by
  rcases ending with _ | cause
  · exact cutLines_append_newline h rest
  · rw [lines, cutLines_append_newline h, List.filter_cons_of_pos (by simp)]
    rfl

theorem lines_failed_of_not_mem {input : Bytes} (h : newline ∉ input) (cause : Fault) :
    (failed cause).lines input = [] := by
  by_cases hne : input = []
  · rw [hne]
    rfl
  · rw [lines, cutLines_of_not_mem h hne, List.filter_cons_of_neg (by simp [h])]
    rfl

/-- There are as many lines as newlines, and one more if something is left behind the last and the
stream ends. -/
theorem length_lines (input : Bytes) (ending : StreamEnd) :
    (ending.lines input).length = input.count newline +
      if ending = .ended ∧ ¬ (input = [] ∨ input.getLast? = some newline) then 1 else 0 := by
  rcases ending with _ | cause
  · rw [lines, length_cutLines]
    by_cases h : input = [] ∨ input.getLast? = some newline
    · rw [if_pos h, if_neg (by simp [h])]
    · rw [if_neg h, if_pos ⟨rfl, h⟩]
  · rw [if_neg (by simp)]
    induction input using lines_induction with
    | last bs h => rw [lines_failed_of_not_mem h, List.count_eq_zero_of_not_mem h]; rfl
    | line body rest h ih =>
      rw [lines_append_newline h, List.length_cons, ih, List.count_append,
        List.count_eq_zero_of_not_mem h, List.count_cons_self]
      omega

end StreamEnd

/-! ## Reading them -/

namespace PlainLines

/-- The lines that are still to be read. -/
def available (s : PlainLines) : List Bytes := s.ending.lines s.unread

theorem takeLine_of_cutLine {ps : List Bytes} {line rest : Bytes}
    (h : cutLine ps.flatten = (line, rest)) :
    (takeLine ps).1 = line ∧ (takeLine ps).2.1.flatten = rest := by
  rw [← takeLine_eq_cutLine] at h
  exact ⟨congrArg Prod.fst h, congrArg Prod.snd h⟩

/-- The first line that a stream gives is taken off its pieces, and the others are left. -/
theorem takeLine_of_cons {ps : List Bytes} {ending : StreamEnd} {line : Bytes}
    {lines : List Bytes} (h : ending.lines ps.flatten = line :: lines) :
    lineOf ending (takeLine ps).1 (takeLine ps).2.2 = .ok (Utf8.decodeLossy line) ∧
      ending.lines (takeLine ps).2.1.flatten = lines ∧
      line ++ (takeLine ps).2.1.flatten = ps.flatten := by
  by_cases hmem : newline ∈ ps.flatten
  · obtain ⟨body, rest, heq, hbody⟩ := List.eq_append_cons_of_mem hmem
    have hcut : cutLine ps.flatten = (body ++ [newline], rest) := by
      rw [heq, cutLine_append_newline hbody]
    rw [heq, StreamEnd.lines_append_newline hbody] at h
    obtain ⟨rfl, rfl⟩ := List.cons.inj h
    obtain ⟨hline, hrest⟩ := takeLine_of_cutLine hcut
    rw [(takeLine_found_iff ps).2 hmem, hline, hrest, heq, List.append_assoc]
    exact ⟨rfl, rfl, rfl⟩
  · -- What is left is the last line of a stream that ends, and none of one that fails.
    obtain ⟨hline, hrest⟩ := takeLine_of_cutLine (cutLine_of_not_mem hmem)
    rcases ending with _ | cause
    · have hne : ps.flatten ≠ [] := by
        intro hnil
        rw [hnil] at h
        exact absurd h (by simp [StreamEnd.lines])
      rw [StreamEnd.lines, cutLines_of_not_mem hmem hne] at h
      obtain ⟨rfl, rfl⟩ := List.cons.inj h
      rw [hline, hrest]
      exact ⟨by simp [lineOf, hne], rfl, List.append_nil _⟩
    · rw [StreamEnd.lines_failed_of_not_mem hmem] at h
      exact absurd h (by simp)

/-- Where a stream gives no line, a reader takes all that is left and meets what is behind it. -/
theorem takeLine_of_nil {ps : List Bytes} {ending : StreamEnd}
    (h : ending.lines ps.flatten = []) :
    lineOf ending (takeLine ps).1 (takeLine ps).2.2 = .error ending.error ∧
      (takeLine ps).2.1.flatten = [] := by
  have hmem : newline ∉ ps.flatten := by
    intro hmem
    obtain ⟨body, rest, heq, hbody⟩ := List.eq_append_cons_of_mem hmem
    rw [heq, StreamEnd.lines_append_newline hbody] at h
    exact absurd h (by simp)
  have hfound : (takeLine ps).2.2 = false := by
    rw [← Bool.not_eq_true, takeLine_found_iff]
    exact hmem
  obtain ⟨hline, hrest⟩ := takeLine_of_cutLine (cutLine_of_not_mem hmem)
  refine ⟨?_, hrest⟩
  rw [hfound, hline]
  rcases ending with _ | cause
  · have hnil : ps.flatten = [] := by
      rw [← flatten_cutLines ps.flatten]
      exact congrArg List.flatten h
    rw [hnil]
    rfl
  · rfl

/-- A prompt that does not go through is an error, and nothing is read. -/
theorem readLine_of_not_fits {prompt : Text} {s : PlainLines}
    (h : ¬ s.prompter.Fits (Utf8.encode prompt)) :
    LineSource.readLine prompt s
      = ⟨s.prompter.taken (Utf8.encode prompt), .error (.readInput s.prompter.fault),
          { s with prompter := s.prompter.after (Utf8.encode prompt) }⟩ :=
  if_pos (mt Writer.taken_eq_iff.1 h)

theorem readLine_of_fits {prompt : Text} {s : PlainLines}
    (h : s.prompter.Fits (Utf8.encode prompt)) :
    LineSource.readLine prompt s
      = ⟨Utf8.encode prompt, lineOf s.ending (takeLine s.pieces).1 (takeLine s.pieces).2.2,
          ⟨(takeLine s.pieces).2.1, s.ending, s.prompter.after (Utf8.encode prompt)⟩⟩ := by
  have htaken := Writer.taken_of_fits h
  change readLine prompt s = _
  rw [readLine, htaken]
  exact if_neg (not_not_intro rfl)

/-- Behind a prompt that goes through, the next line is the first of those that are left. -/
theorem readLine_of_cons {prompt : Text} {s : PlainLines} {line : Bytes} {lines : List Bytes}
    (hfits : s.prompter.Fits (Utf8.encode prompt)) (h : s.available = line :: lines) :
    ∃ s' : PlainLines, s'.ending = s.ending ∧
      s'.prompter = s.prompter.after (Utf8.encode prompt) ∧ s'.available = lines ∧
      line ++ s'.unread = s.unread ∧
      LineSource.readLine prompt s = ⟨Utf8.encode prompt, .ok (Utf8.decodeLossy line), s'⟩ := by
  obtain ⟨hline, hlines, hunread⟩ := takeLine_of_cons h
  refine ⟨⟨(takeLine s.pieces).2.1, s.ending, s.prompter.after (Utf8.encode prompt)⟩, rfl, rfl,
    hlines, hunread, ?_⟩
  rw [readLine_of_fits hfits, hline]

/-- There is no further line where none is left. -/
theorem readLine_of_nil {prompt : Text} {s : PlainLines}
    (hfits : s.prompter.Fits (Utf8.encode prompt)) (h : s.available = []) :
    ∃ s' : PlainLines, s'.unread = [] ∧
      LineSource.readLine prompt s = ⟨Utf8.encode prompt, .error s.ending.error, s'⟩ := by
  obtain ⟨hline, hrest⟩ := takeLine_of_nil h
  refine ⟨⟨(takeLine s.pieces).2.1, s.ending, s.prompter.after (Utf8.encode prompt)⟩, hrest, ?_⟩
  rw [readLine_of_fits hfits, hline]

end PlainLines

namespace LineSource

variable {σ : Type} [LineSource σ] {prompt : Text} {s s' : σ} {lines : List Bytes}

/-- Whether a source returns some lines, decoded, each behind a prompt that goes through. -/
inductive Returns (prompt : Text) : σ → List Bytes → σ → Prop where
  /-- It may not be asked at all. -/
  | nil (s : σ) : Returns prompt s [] s
  /-- It is asked once more. -/
  | cons {s s' s'' : σ} {line : Bytes} {lines : List Bytes}
    (hline : readLine prompt s = ⟨Utf8.encode prompt, .ok (Utf8.decodeLossy line), s'⟩)
    (hlines : Returns prompt s' lines s'') : Returns prompt s (line :: lines) s''

/-- Whether a source returns some lines in this way and then stops with an error, having written
something of one more prompt. -/
def Stops (prompt : Text) (s : σ) (lines : List Bytes) (p : Bytes) (e : ShellError) (s' : σ) :
    Prop :=
  ∃ behind, Returns prompt s lines behind ∧ readLine prompt behind = ⟨p, .error e, s'⟩

theorem Returns.of_append {more : List Bytes} (h : Returns prompt s (lines ++ more) s') :
    ∃ behind, Returns prompt s lines behind ∧ Returns prompt behind more s' := by
  induction lines generalizing s with
  | nil => exact ⟨s, .nil s, h⟩
  | cons line lines ih =>
    rcases h with _ | ⟨hline, hlines⟩
    obtain ⟨behind, hlines, hmore⟩ := ih hlines
    exact ⟨behind, .cons hline hlines, hmore⟩

theorem readAll_of_stops {p : Bytes} {e : ShellError} (h : Stops prompt s lines p e s') :
    readAll prompt s
      = (lines.map Utf8.decodeLossy, e,
          (List.replicate lines.length (Utf8.encode prompt)).flatten ++ p) := by
  obtain ⟨behind, hreturns, hread⟩ := h
  induction hreturns with
  | nil s => exact readAll_of_error hread
  | cons hline hlines ih =>
    rw [readAll_of_line hline, ih hread, List.length_cons, List.replicate_succ, List.flatten_cons,
      List.append_assoc]
    rfl

end LineSource

namespace PlainLines

/-- A reader returns the first of its lines, as many as it can prompt for. -/
theorem exists_returns (prompt : Text) {s : PlainLines} {lines more : List Bytes}
    (h : s.available = lines ++ more)
    (hfits : s.prompter.Fits (List.replicate lines.length (Utf8.encode prompt)).flatten) :
    ∃ s' : PlainLines, s'.ending = s.ending ∧
      s'.prompter = s.prompter.after (List.replicate lines.length (Utf8.encode prompt)).flatten ∧
      s'.available = more ∧ lines.flatten ++ s'.unread = s.unread ∧
      LineSource.Returns prompt s lines s' := by
  induction lines generalizing s with
  | nil =>
    exact ⟨s, rfl, (Writer.after_nil _).symm, h, rfl, .nil s⟩
  | cons line lines ih =>
    rw [List.length_cons, List.replicate_succ, List.flatten_cons] at hfits ⊢
    obtain ⟨hprompt, hprompts⟩ := Writer.fits_append_iff.1 hfits
    obtain ⟨s', hending, hprompter, havailable, hunread, hread⟩ := readLine_of_cons hprompt h
    rw [← hprompter] at hprompts
    obtain ⟨s'', hending', hprompter', hmore, hunread', hreturns⟩ := ih havailable hprompts
    refine ⟨s'', hending'.trans hending, ?_, hmore, ?_, .cons hread hreturns⟩
    · rw [hprompter', hprompter, Writer.after_append]
    · rw [List.flatten_cons, List.append_assoc, hunread', hunread]

/-- A source that prompts without fail, and whose stream comes in pieces and then ends. -/
def ofPieces (pieces : List Bytes) : PlainLines := ⟨pieces, .ended, .unlimited⟩

theorem exists_returns_ofPieces (prompt : Text) {pieces lines more : List Bytes}
    (h : cutLines pieces.flatten = lines ++ more) :
    ∃ rest, (ofPieces rest).available = more ∧
      LineSource.Returns prompt (ofPieces pieces) lines (ofPieces rest) := by
  have havailable : (ofPieces pieces).available = lines ++ more := h
  obtain ⟨s, hending, hprompter, hmore, -, hreturns⟩ :=
    exists_returns prompt havailable (Writer.fits_unlimited _)
  obtain ⟨rest, ending, prompter⟩ := s
  obtain rfl : ending = .ended := hending
  obtain rfl : prompter = .unlimited := hprompter
  exact ⟨rest, hmore, hreturns⟩

theorem exists_stops_ofPieces (prompt : Text) {pieces lines : List Bytes}
    (h : cutLines pieces.flatten = lines) :
    ∃ rest : PlainLines, rest.unread = [] ∧
      LineSource.Stops prompt (ofPieces pieces) lines (Utf8.encode prompt) .endOfInput rest := by
  rw [← List.append_nil lines] at h
  obtain ⟨behind, hnil, hreturns⟩ := exists_returns_ofPieces prompt h
  obtain ⟨rest, hrest, hread⟩ :=
    readLine_of_nil (s := ofPieces behind) (Writer.fits_unlimited _) hnil
  exact ⟨rest, hrest, _, hreturns, hread⟩

/-- All that a reader returns are the lines of its input, decoded, and then the end of it. -/
theorem readAll_ofPieces (prompt : Text) (pieces : List Bytes) :
    (LineSource.readAll prompt (ofPieces pieces)).1
        = (cutLines pieces.flatten).map Utf8.decodeLossy ∧
      (LineSource.readAll prompt (ofPieces pieces)).2.1 = .endOfInput := by
  obtain ⟨rest, -, hstops⟩ := exists_stops_ofPieces prompt (Eq.refl (cutLines pieces.flatten))
  rw [LineSource.readAll_of_stops hstops]
  exact ⟨rfl, rfl⟩

end PlainLines

end LineShell
