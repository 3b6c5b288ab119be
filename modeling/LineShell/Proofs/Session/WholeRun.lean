import LineShell.Proofs.LineSource.Lines
import LineShell.Proofs.Shell.Results
import LineShell.Session

/-!
# Whole sessions on an input

A session on an input that is read to its end is settled by the lines of that input. They are run in
order, each on the machine that the one before has left (`machineAfter`), up to the first whose
command is `exit` and whose redirection can be opened (`ExitsWith`). That line ends the session with
its code, and what stands behind it is never read; if there is none, all lines are run, and then the
end of the input ends the session (`run_ofPieces`).

## Nothing else ends a session

No line ends with a fatal error, so of an error of a line only its text is seen (`report`). What is
left to show is that reading, running and reporting alternate as they should, and that is one
induction on the lines that are run.
-/

namespace LineShell.Session

/-! ## One step -/

section Step

variable {σ : Type} [LineSource σ] {prompt : Text} {s s' : σ} {p : Bytes}

/-- Induction along a source: it gives no line, or it gives one and goes on. -/
theorem source_induction {motive : σ → Prop} (prompt : Text)
    (stops : ∀ s p e s', LineSource.readLine prompt s = ⟨p, .error e, s'⟩ → motive s)
    (reads : ∀ s p line s', LineSource.readLine prompt s = ⟨p, .ok line, s'⟩ → motive s' →
      motive s) (s : σ) : motive s := by
  induction hsize : LineSource.size s using Nat.strongRecOn generalizing s with
  | ind size ih =>
    rcases hread : LineSource.readLine prompt s with ⟨prompted, e | line, rest⟩
    · exact stops s prompted e rest hread
    · have hresult : (LineSource.readLine prompt s).result = .ok line := by rw [hread]
      have hlt := LineSource.size_lt hresult
      rw [hread, hsize] at hlt
      exact reads s prompted line rest hread (ih _ hlt rest rfl)

theorem run_of_error {e : ShellError} (h : LineSource.readLine prompt s = ⟨p, .error e, s'⟩)
    (m : Machine) : run prompt s m = ⟨⟨.error (.error e), m, [.prompt p]⟩, s'⟩ := by
  rw [run]
  split
  · next e' he =>
    rw [h] at he
    obtain rfl : e = e' := Except.error.inj he
    rw [h]
    rfl
  · next line hl =>
    rw [h] at hl
    exact absurd hl (by simp)

/-- What is left of a session after a line with some outcome: its end, or the lines behind it. -/
def runBehind (prompt : Text) (s : σ) (o : Outcome Flow) : Ended σ :=
  match verdict o.result with
  | .error result => ⟨⟨result, o.machine, []⟩, s⟩
  | .ok complaint => (run prompt s o.machine).after complaint

/-- A line is run, and what comes of it decides whether the session goes on. -/
theorem run_of_line {line : Text} (h : LineSource.readLine prompt s = ⟨p, .ok line, s'⟩)
    (m : Machine) :
    run prompt s m
      = Ended.after [.prompt p] (Ended.after (Shell.runLine m line).transcript
          (runBehind prompt s' (Shell.runLine m line))) := by
  rw [run]
  split
  · next e he =>
    rw [h] at he
    exact absurd he (by simp)
  · next line' hl =>
    rw [h] at hl
    obtain rfl : line = line' := Except.ok.inj hl
    simp only [h]
    rfl

end Step

/-! ## Runs of lines -/

/-- Runs a line of the input. Bytes that are no text do not stop it. -/
def runBytes (m : Machine) (line : Bytes) : Outcome Flow :=
  Shell.runLine m (Utf8.decodeLossy line)

/-- The machine after some lines, run one after the other. -/
def machineAfter (m : Machine) (lines : List Bytes) : Machine :=
  lines.foldl (fun m line ↦ (runBytes m line).machine) m

/-- What is printed of how a line ended: the text of its error, if it had one. -/
def report : Except Halt Flow → Transcript
  | .error (.error e) => [.err (Utf8.encode (e.message ++ ['\n']))]
  | _ => []

/-- What comes out of some lines, run one after the other: a prompt, what the line itself lets out,
and what is printed of how it ended. -/
def transcriptOf (prompt : Text) : Machine → List Bytes → Transcript
  | _, [] => []
  | m, line :: lines =>
    [.prompt (Utf8.encode prompt)] ++ (runBytes m line).transcript
      ++ report (runBytes m line).result ++ transcriptOf prompt (runBytes m line).machine lines

theorem machineAfter_singleton (m : Machine) (line : Bytes) :
    machineAfter m [line] = (runBytes m line).machine := rfl

theorem machineAfter_append (m : Machine) (lines more : List Bytes) :
    machineAfter m (lines ++ more) = machineAfter (machineAfter m lines) more :=
  List.foldl_append

theorem transcriptOf_append (prompt : Text) (m : Machine) (lines more : List Bytes) :
    transcriptOf prompt m (lines ++ more)
      = transcriptOf prompt m lines ++ transcriptOf prompt (machineAfter m lines) more := by
  induction lines generalizing m with
  | nil => rfl
  | cons line lines ih =>
    rw [List.cons_append, transcriptOf, ih, ← List.append_assoc]
    rfl

/-- Whether a line ends a session with a code: its command is `exit`, and its redirection, if it has
one, can be opened. -/
def ExitsWith (m : Machine) (line : Bytes) (code : Int) : Prop :=
  ∃ args target opened, splitRedirection (tokenize (Utf8.decodeLossy line)) = .ok (args, target) ∧
    openSink m.files m.location target = .ok opened ∧ args.head? = some "exit".toList ∧
    code = Builtin.exitCode args

/-- Whether none of some lines ends a session, each on the machine that those before it leave. -/
def NoneExits : Machine → List Bytes → Prop
  | _, [] => True
  | m, line :: lines =>
    (∀ code, ¬ ExitsWith m line code) ∧ NoneExits (runBytes m line).machine lines

theorem exitsWith_iff {m : Machine} {line : Bytes} {code : Int} :
    ExitsWith m line code ↔ (runBytes m line).result = .ok (.exit code) := by
  rw [runBytes, Shell.runLine, Shell.result_execute_eq_exit_iff, ExitsWith]
  constructor
  · rintro ⟨args, target, opened, hsplit, hopen, hhead, hcode⟩
    obtain ⟨rest, rfl⟩ := List.head?_eq_some_iff.1 hhead
    exact ⟨rest, target, opened, hsplit, hopen, hcode⟩
  · rintro ⟨rest, target, opened, hsplit, hopen, hcode⟩
    exact ⟨_, target, opened, hsplit, hopen, rfl, hcode⟩

/-- Either no line ends the session, or there is a first one that does. -/
theorem noneExits_or_exists (m : Machine) (lines : List Bytes) :
    NoneExits m lines ∨ ∃ pre line post code, lines = pre ++ line :: post ∧ NoneExits m pre ∧
      ExitsWith (machineAfter m pre) line code := by
  induction lines generalizing m with
  | nil => exact .inl trivial
  | cons line lines ih =>
    by_cases hexit : ∃ code, ExitsWith m line code
    · obtain ⟨code, hexit⟩ := hexit
      exact .inr ⟨[], line, lines, code, rfl, trivial, hexit⟩
    · have hline : ∀ code, ¬ ExitsWith m line code := fun code h ↦ hexit ⟨code, h⟩
      rcases ih (runBytes m line).machine with hnone | ⟨pre, l, post, code, rfl, hpre, hl⟩
      · exact .inl ⟨hline, hnone⟩
      · exact .inr ⟨line :: pre, l, post, code, rfl, ⟨hline, hpre⟩, hl⟩

theorem verdict_of_not_exits {m : Machine} {line : Bytes} (h : ∀ code, ¬ ExitsWith m line code) :
    verdict (runBytes m line).result = .ok (report (runBytes m line).result) := by
  rcases hresult : (runBytes m line).result with halt | flow
  · obtain ⟨e, rfl, hfatal⟩ := Shell.not_isFatal_of_result_execute hresult
    exact if_neg hfatal
  · cases flow with
    | proceed => rfl
    | exit code => exact absurd (exitsWith_iff.2 hresult) (h code)

theorem prompts_transcriptOf (prompt : Text) (m : Machine) (lines : List Bytes) :
    (transcriptOf prompt m lines).prompts
      = (List.replicate lines.length (Utf8.encode prompt)).flatten := by
  induction lines generalizing m with
  | nil => rfl
  | cons line lines ih =>
    have hline : (runBytes m line).transcript.prompts = [] := Shell.prompts_execute _ _
    have hreport : (report (runBytes m line).result).prompts = [] := by
      rw [report.eq_def]
      split <;> rfl
    rw [transcriptOf, Transcript.prompts_append, Transcript.prompts_append,
      Transcript.prompts_append, hline, hreport, ih, List.length_cons, List.replicate_succ,
      List.flatten_cons, List.append_nil, List.append_nil]
    simp [Transcript.prompts, Emission.toPrompts]

/-! ## Whole sessions -/

section Returns

variable {σ : Type} [LineSource σ] {prompt : Text} {s s' : σ} {m : Machine}

/-- The lines that a source returns are run, and what is behind them meets the machine that they
leave. -/
theorem run_of_returns {lines : List Bytes} (h : LineSource.Returns prompt s lines s')
    (hnone : NoneExits m lines) :
    run prompt s m
      = (run prompt s' (machineAfter m lines)).after (transcriptOf prompt m lines) := by
  induction h generalizing m with
  | nil s => rfl
  | cons hline hlines ih =>
    obtain ⟨hexits, hnone⟩ := hnone
    rw [run_of_line hline, ← runBytes, runBehind, verdict_of_not_exits hexits, ih hnone]
    simp [Ended.after, machineAfter, transcriptOf]

/-- A session in which no line ends it ends with the error that its source stops with. -/
theorem run_of_stops {lines : List Bytes} {p : Bytes} {e : ShellError}
    (h : LineSource.Stops prompt s lines p e s') (hnone : NoneExits m lines) :
    run prompt s m
      = ⟨⟨.error (.error e), machineAfter m lines, transcriptOf prompt m lines ++ [.prompt p]⟩,
          s'⟩ := by
  obtain ⟨behind, hreturns, hread⟩ := h
  rw [run_of_returns hreturns hnone, run_of_error hread]
  rfl

/-- The lines before the one that ends a session are run, and then that one. -/
theorem run_of_exits {pre : List Bytes} {line : Bytes} {code : Int}
    (h : LineSource.Returns prompt s (pre ++ [line]) s') (hpre : NoneExits m pre)
    (hexit : ExitsWith (machineAfter m pre) line code) :
    run prompt s m
      = ⟨⟨.ok code, machineAfter m (pre ++ [line]), transcriptOf prompt m (pre ++ [line])⟩,
          s'⟩ := by
  obtain ⟨behind, hreturns, hline⟩ := h.of_append
  rcases hline with _ | ⟨hline, hnil⟩
  rcases hnil with _ | _
  have hresult : (runBytes (machineAfter m pre) line).result = .ok (.exit code) :=
    exitsWith_iff.1 hexit
  rw [run_of_returns hreturns hpre, run_of_line hline, ← runBytes, runBehind, hresult,
    machineAfter_append, machineAfter_singleton, transcriptOf_append]
  have hreport : report (runBytes (machineAfter m pre) line).result = [] := by
    rw [hresult]
    rfl
  simp [verdict, Ended.after, transcriptOf, hreport]

end Returns

open PlainLines (ofPieces)

theorem run_of_exitsWith (prompt : Text) {pre post : List Bytes} {line : Bytes} {code : Int}
    {pieces : List Bytes} {m : Machine} (h : cutLines pieces.flatten = pre ++ line :: post)
    (hpre : NoneExits m pre) (hexit : ExitsWith (machineAfter m pre) line code) :
    ∃ rest, rest.flatten = post.flatten ∧
      run prompt (ofPieces pieces) m
        = ⟨⟨.ok code, machineAfter m (pre ++ [line]), transcriptOf prompt m (pre ++ [line])⟩,
            ofPieces rest⟩ := by
  rw [List.append_cons] at h
  obtain ⟨rest, hrest, hreturns⟩ := PlainLines.exists_returns_ofPieces prompt h
  refine ⟨rest, ?_, run_of_exits hreturns hpre hexit⟩
  rw [← hrest]
  exact (flatten_cutLines _).symm

theorem run_of_noneExits (prompt : Text) {pieces : List Bytes} {m : Machine} {lines : List Bytes}
    (h : cutLines pieces.flatten = lines) (hnone : NoneExits m lines) :
    ∃ rest : PlainLines, rest.unread = [] ∧
      run prompt (ofPieces pieces) m
        = ⟨⟨.error (.error .endOfInput), machineAfter m lines,
            transcriptOf prompt m lines ++ [.prompt (Utf8.encode prompt)]⟩, rest⟩ := by
  obtain ⟨rest, hrest, hstops⟩ := PlainLines.exists_stops_ofPieces prompt h
  exact ⟨rest, hrest, run_of_stops hstops hnone⟩

/-- **A session runs the lines of its input up to the first that ends it.** It ends with a code
exactly if there is such a line, with that line's code, and has then read up to and with it; and
with the end of the input otherwise, having read all. It prompts once for each line, and once more
if it meets the end. No error of a line is fatal. -/
theorem run_ofPieces (prompt : Text) (pieces : List Bytes) (m : Machine) :
    let lines := cutLines pieces.flatten
    let e := run prompt (ofPieces pieces) m
    (∀ code, e.result = .ok code ↔ ∃ pre line post, lines = pre ++ line :: post ∧
        NoneExits m pre ∧ ExitsWith (machineAfter m pre) line code) ∧
      (∀ pre line post code, lines = pre ++ line :: post → NoneExits m pre →
        ExitsWith (machineAfter m pre) line code →
          e.source.unread = post.flatten ∧ e.machine = machineAfter m (pre ++ [line]) ∧
          e.transcript = transcriptOf prompt m (pre ++ [line]) ∧
          e.transcript.prompts
            = (List.replicate (pre.length + 1) (Utf8.encode prompt)).flatten) ∧
      (NoneExits m lines →
          e.result = .error (.error .endOfInput) ∧ e.source.unread = [] ∧
          e.machine = machineAfter m lines ∧
          e.transcript = transcriptOf prompt m lines ++ [.prompt (Utf8.encode prompt)] ∧
          e.transcript.prompts
            = (List.replicate (lines.length + 1) (Utf8.encode prompt)).flatten) ∧
      ∀ (m : Machine) (line : Text) (halt : Halt), (Shell.runLine m line).result = .error halt →
        ∃ error, halt = .error error ∧ ¬ error.IsFatal := by
  refine ⟨fun code ↦ ⟨fun hcode ↦ ?_, ?_⟩, ?_, ?_, fun m line halt h ↦ ?_⟩
  · -- A session that has a code has met a line with one, since otherwise it met the end.
    rcases noneExits_or_exists m (cutLines pieces.flatten) with
      hnone | ⟨pre, line, post, code', h, hpre, hexit⟩
    · obtain ⟨rest, -, hrun⟩ := run_of_noneExits prompt rfl hnone
      rw [hrun] at hcode
      exact absurd hcode (by simp)
    · obtain ⟨rest, -, hrun⟩ := run_of_exitsWith prompt h hpre hexit
      rw [hrun] at hcode
      obtain rfl : code' = code := Except.ok.inj hcode
      exact ⟨pre, line, post, h, hpre, hexit⟩
  · rintro ⟨pre, line, post, h, hpre, hexit⟩
    obtain ⟨rest, -, hrun⟩ := run_of_exitsWith prompt h hpre hexit
    rw [hrun]
  · intro pre line post code h hpre hexit
    obtain ⟨rest, hrest, hrun⟩ := run_of_exitsWith prompt h hpre hexit
    rw [hrun]
    refine ⟨hrest, rfl, rfl, ?_⟩
    rw [prompts_transcriptOf, List.length_append]
    rfl
  · intro hnone
    obtain ⟨rest, hrest, hrun⟩ := run_of_noneExits prompt rfl hnone
    rw [hrun]
    refine ⟨rfl, hrest, rfl, rfl, ?_⟩
    rw [Transcript.prompts_append, prompts_transcriptOf, List.replicate_succ', List.flatten_append]
    rfl
  · exact Shell.not_isFatal_of_result_execute h

end LineShell.Session
