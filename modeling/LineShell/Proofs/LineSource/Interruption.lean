import LineShell.Proofs.LineSource.Lines

/-!
# Where reading stops

Three things stop a reader of lines: its stream ends, its stream fails, or a prompt does not go
through. A prompt is written before anything is read, so the third comes first if it comes at all.
How many prompts go through is a matter of room alone, and how many lines there are is one of the
stream; the smaller of the two numbers says how many lines are returned, and which of them it is
says with what error (`exists_stops`).

The two can be equal. Then the last line is returned, and the prompt behind it fails before the
reader gets to see that there is no further line.
-/

namespace LineShell.PlainLines

variable {prompt : Text} {s : PlainLines}

/-- A reader whose prompts go through until no line is left returns all lines. What comes then is
said by the stream. -/
theorem stops_of_fits (hfits :
      s.prompter.Fits (List.replicate (s.available.length + 1) (Utf8.encode prompt)).flatten) :
    ∃ s' : PlainLines,
      LineSource.Stops prompt s s.available (Utf8.encode prompt) s.ending.error s' := by
  rw [List.replicate_succ', List.flatten_concat, Writer.fits_append_iff] at hfits
  obtain ⟨behind, hending, hprompter, hnil, -, hreturns⟩ :=
    exists_returns prompt (List.append_nil _).symm hfits.1
  rw [← hprompter] at hfits
  obtain ⟨s', -, hread⟩ := readLine_of_nil hfits.2 hnil
  rw [hending] at hread
  exact ⟨s', behind, hreturns, hread⟩

/-- A reader whose prompts stop going through returns as many lines as it had prompts for, and takes
nothing of those that are left. -/
theorem stops_of_not_fits {k : Nat} (hk : k ≤ s.available.length)
    (hfits : s.prompter.Fits (List.replicate k (Utf8.encode prompt)).flatten)
    (hfull : ¬ s.prompter.Fits (List.replicate (k + 1) (Utf8.encode prompt)).flatten) :
    ∃ (last : Bytes) (s' : PlainLines),
      LineSource.Stops prompt s (s.available.take k) last (.readInput s.prompter.fault) s' ∧
        (List.replicate k (Utf8.encode prompt)).flatten ++ last
          = s.prompter.taken (List.replicate (k + 1) (Utf8.encode prompt)).flatten ∧
        (s.available.take k).flatten ++ s'.unread = s.unread := by
  have hlength : (s.available.take k).length = k := List.length_take_of_le hk
  rw [List.replicate_succ', List.flatten_concat] at hfull ⊢
  rw [Writer.fits_append_iff, not_and] at hfull
  rw [Writer.taken_append, Writer.taken_of_fits hfits]
  obtain ⟨behind, -, hprompter, -, hunread, hreturns⟩ :=
    exists_returns prompt (List.take_append_drop k s.available).symm (by rwa [hlength])
  rw [hlength] at hprompter
  have hprompt : ¬ behind.prompter.Fits (Utf8.encode prompt) := by
    rw [hprompter]
    exact hfull hfits
  have hread := readLine_of_not_fits hprompt
  rw [hprompter, Writer.fault_after] at hread
  exact ⟨_, _, ⟨behind, hreturns, hread⟩, rfl, hunread⟩

/-- Where a reader stops whose prompts have so much room: how many lines it has returned by then,
what it has written, and with what error. A prompt without bytes takes no room. -/
theorem exists_stops (prompt : Text) (pieces : List Bytes) (ending : StreamEnd) (room : Nat)
    (fault : Fault) :
    let s : PlainLines := ⟨pieces, ending, ⟨some room, fault⟩⟩
    let p := Utf8.encode prompt
    let count :=
      if p = [] then s.available.length else min s.available.length (room / p.length)
    ∃ (last : Bytes) (s' : PlainLines),
      LineSource.Stops prompt s (s.available.take count) last
          (if p ≠ [] ∧ room / p.length ≤ s.available.length then .readInput fault
            else ending.error) s' ∧
        (List.replicate count p).flatten ++ last
          = (List.replicate (count + 1) p).flatten.take room ∧
        (p ≠ [] ∧ room / p.length ≤ s.available.length →
          (s.available.take count).flatten ++ s'.unread = pieces.flatten) := by
  intro s p count
  by_cases hfull : p ≠ [] ∧ room / p.length ≤ s.available.length
  · -- The room takes as many prompts as there are lines returned, and no further one.
    have hcount : count = room / p.length := by
      rw [← Nat.min_eq_right hfull.2]
      exact if_neg hfull.1
    obtain ⟨last, s', hstops, hwritten, hunread⟩ := stops_of_not_fits hfull.2
      ((Writer.fits_flatten_replicate_iff hfull.1).2 (Nat.le_refl _))
      (mt (Writer.fits_flatten_replicate_iff hfull.1).1 (Nat.not_succ_le_self _))
    rw [hcount, if_pos hfull]
    exact ⟨last, s', hstops, hwritten, fun _ ↦ hunread⟩
  · obtain ⟨hcount, hfits⟩ : count = s.available.length ∧
        s.prompter.Fits (List.replicate (s.available.length + 1) p).flatten := by
      by_cases hp : p = []
      · refine ⟨if_pos hp, ?_⟩
        rw [hp, List.flatten_replicate_nil]
        exact Writer.fits_nil _
      · have hlt : s.available.length < room / p.length :=
          Nat.lt_of_not_le fun hle ↦ hfull ⟨hp, hle⟩
        exact ⟨(if_neg hp).trans (Nat.min_eq_left (Nat.le_of_lt hlt)),
          (Writer.fits_flatten_replicate_iff hp).2 hlt⟩
    obtain ⟨s', hstops⟩ := stops_of_fits hfits
    rw [hcount, if_neg hfull, List.take_length]
    refine ⟨p, s', hstops, ?_, fun h ↦ absurd h hfull⟩
    rw [List.replicate_succ', List.flatten_concat] at hfits ⊢
    exact (Writer.taken_of_fits hfits).symm

end LineShell.PlainLines
