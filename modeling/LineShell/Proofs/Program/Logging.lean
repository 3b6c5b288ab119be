import LineShell.Event.DirectiveList
import LineShell.Proofs.Live.Agreement
import LineShell.Proofs.Transcript.Errors

/-!
# The log beside everything else

A run writes its log while it goes: in the middle of a redirection, before a command, behind a
program that has ended or has failed to start. The log shares standard error with programs and with
the errors of the shell, and what is logged is up to a filter that the run has with it all the time.
None of that shows anywhere else. Two runs that differ only in the variable for the log print the
same, end with the same status and leave the same machine, and on standard error all that they do not
share are the lines of the log (`Program.run_log`).

The reason is that a live session comes to what its transcript says (`Live.comesTo_session`), and
the transcript is the same for both runs. What is left to show is how the pieces of standard error
are made of a transcript, with each filter.

What programs do, and whether they can be started, does not depend on the variable for the log here.
-/

namespace LineShell

/-- The event of an emission, if it is one. -/
def Emission.event? : Emission → Option Event
  | .event e => some e
  | _ => none

namespace Transcript

/-- The events. -/
def events (t : Transcript) : List Event := t.filterMap Emission.event?

variable (f : Filter) (t : Transcript)

/-! ## Pieces of standard error -/

/-- The pieces make up the stream. -/
theorem flatMap_bytes_errorPieces : (t.errorPieces f).flatMap ErrorPiece.bytes = t.stderr f := by
  rw [errorPieces, stderr, List.flatMap_assoc]
  refine congrArg t.flatMap (funext fun emission ↦ ?_)
  rcases emission with bytes | bytes | bytes | e
  · rfl
  · rfl
  · exact List.append_nil bytes
  · rw [Emission.toErrorPieces, Emission.toStderr]
    split
    · exact List.append_nil _
    · rfl

/-- **What is not the log's does not depend on the filter.** -/
theorem filter_isPlain_errorPieces :
    (t.errorPieces f).filter ErrorPiece.IsPlain = t.errorPieces .off := by
  induction t with
  | nil => rfl
  | cons emission t ih =>
    have hcons : ∀ g, errorPieces g (emission :: t)
        = emission.toErrorPieces g ++ errorPieces g t := fun g ↦ List.flatMap_cons
    rw [hcons, hcons, List.filter_append, ih]
    congr 1
    rcases emission with bytes | bytes | bytes | e
    · rfl
    · rfl
    · rfl
    · rw [Emission.toErrorPieces]
      split <;> rfl

/-- What is not the log's is what commands and the shell itself have written. -/
theorem flatMap_bytes_errorPieces_off :
    (t.errorPieces .off).flatMap ErrorPiece.bytes = t.errors := by
  rw [errorPieces, errors, List.flatMap_assoc]
  refine congrArg t.flatMap (funext fun emission ↦ ?_)
  rcases emission with bytes | bytes | bytes | e
  · rfl
  · rfl
  · exact List.append_nil bytes
  · rfl

/-- What is the log's are the events that the filter admits, each once and in their order. -/
theorem filterMap_event?_errorPieces :
    (t.errorPieces f).filterMap ErrorPiece.event? = t.events.filter f := by
  induction t with
  | nil => rfl
  | cons emission t ih =>
    have hcons : errorPieces f (emission :: t) = emission.toErrorPieces f ++ errorPieces f t :=
      List.flatMap_cons
    rw [hcons, List.filterMap_append, ih]
    rcases emission with bytes | bytes | bytes | e
    · rfl
    · rfl
    · rfl
    · have hevents : events (.event e :: t) = e :: events t := rfl
      rw [hevents, Emission.toErrorPieces, List.filter_cons]
      split <;> rfl

end Transcript

namespace Program

variable {σ : Type} [LineSource σ]

/-! ## Two runs -/

/-- A variable that is not set, is not UTF-8, is blank or is no filter asks for no log. -/
theorem filter_startup_eq_false {filters : FilterReader} (hoff : filters.KnowsOff)
    {log : Option Bytes}
    (h : ∀ t, log.bind Utf8.decode? = some t → isBlank t = true ∨ filters.read? t = none)
    (interactive : Bool) (e : Event) : (startup log interactive).filter filters e = false := by
  have hlog : (startup log interactive).logFilter
      = (log.bind Utf8.decode?).filter fun t ↦ ¬ isBlank t := by
    rw [startup, Startup.ofVariables, if_pos rfl]
  have hnone : (startup log interactive).logFilter.bind filters.read? = none := by
    rw [hlog]
    rcases hvalue : log.bind Utf8.decode? with _ | t
    · rfl
    · rw [Option.filter_some]
      split
      · next hblank =>
        rw [Option.bind_some]
        exact (h t hvalue).resolve_left (by simpa using hblank)
      · rfl
  rw [Startup.filter, hnone]
  exact hoff e

/-- **The log does not interfere.** Take two runs on the same machine and the same lines that differ
only in the variable for the log. They print the same, end with the same status and leave the same
machine, and their streams of standard error are made of the same pieces once those of the log are
taken away. Each of them does what the session does that knows of no log: standard output, the
status and the machine are those of the session, what is not the log's on standard error is what
commands and the shell itself have written, and what is the log's are the events that the filter
admits, each once and in order. With a variable that is not set, is not UTF-8, is blank or is no
filter, nothing is the log's. -/
theorem run_log (filters : FilterReader) (m : Machine) (interactive : Bool) (source : σ)
    (log log' : Option Bytes) :
    let r := runOn filters m log interactive source
    let r' := runOn filters m log' interactive source
    let session := Session.run Startup.defaultPrompt source m
    let t := transcriptOn m interactive source
    let f := (startup log interactive).filter filters
    (r.stdout = r'.stdout ∧ r.status = r'.status ∧ r.machine = r'.machine ∧
        r.errorPieces.filter ErrorPiece.IsPlain = r'.errorPieces.filter ErrorPiece.IsPlain) ∧
      (r.stdout = t.stdout ∧ r.status = exitStatus session.result ∧ r.machine = session.machine ∧
        r.stderr = t.stderr f) ∧
      (r.errorPieces.filter ErrorPiece.IsPlain).flatMap ErrorPiece.bytes = t.errors ∧
      r.errorPieces.filterMap ErrorPiece.event? = t.events.filter f ∧
      (filters.KnowsOff →
        (∀ t, log.bind Utf8.decode? = some t → isBlank t = true ∨ filters.read? t = none) →
          (∀ piece ∈ r.errorPieces, piece.IsPlain) ∧ r.stderr = t.errors) := by
  intro r r' session t f
  have hr : r = ⟨exitStatus session.result, session.machine, t.stdout, t.errorPieces f⟩ :=
    runOn_eq filters m log interactive source
  have hr' : r' = ⟨exitStatus session.result, session.machine, t.stdout,
      t.errorPieces ((startup log' interactive).filter filters)⟩ :=
    runOn_eq filters m log' interactive source
  have hpieces : r.errorPieces = t.errorPieces f := congrArg Run.errorPieces hr
  have hpieces' : r'.errorPieces = _ := congrArg Run.errorPieces hr'
  have hplain : r.errorPieces.filter ErrorPiece.IsPlain = t.errorPieces .off := by
    rw [hpieces, Transcript.filter_isPlain_errorPieces]
  refine ⟨⟨?_, ?_, ?_, ?_⟩, ⟨?_, ?_, ?_, ?_⟩, ?_, ?_, ?_⟩
  · rw [hr, hr']
    rfl
  · rw [hr, hr']
  · rw [hr, hr']
    rfl
  · rw [hplain, hpieces']
    exact (t.filter_isPlain_errorPieces _).symm
  · rw [hr]
    rfl
  · rw [hr]
  · rw [hr]
    rfl
  · rw [Run.stderr, hpieces, Transcript.flatMap_bytes_errorPieces]
  · rw [hplain, Transcript.flatMap_bytes_errorPieces_off]
  · rw [hpieces, Transcript.filterMap_event?_errorPieces]
  · intro hoff hlog
    have hf : f = .off := funext (filter_startup_eq_false hoff hlog interactive)
    rw [hf, ← hplain] at hpieces
    constructor
    · intro piece hpiece
      rw [hpieces] at hpiece
      simpa using (List.mem_filter.1 hpiece).2
    · rw [Run.stderr, hpieces, hplain, Transcript.flatMap_bytes_errorPieces_off]

/-- A machine on which there is nothing. -/
def bareMachine : Machine where
  files := .empty
  location := .root
  searchPath := none
  home := none
  behaviour _ := ⟨[], [], .exited 0⟩

/-- A run that is logged and one with a blank variable print the same. -/
theorem run_log_bareMachine :
    let input := Utf8.encode "x\n".toList
    let r := run DirectiveList.reader bareMachine (some (Utf8.encode "minish=debug".toList)) input
    let r' := run DirectiveList.reader bareMachine (some (Utf8.encode " ".toList)) input
    r.stdout = r'.stdout ∧ .starting false ∈ r.errorPieces.filterMap ErrorPiece.event? ∧
      ∀ piece ∈ r'.errorPieces, piece.IsPlain := by
  intro input r r'
  obtain ⟨⟨hstdout, -⟩, -, -, hevents, -⟩ := run_log DirectiveList.reader bareMachine false
    (PlainLines.ofBytes input) (some (Utf8.encode "minish=debug".toList))
    (some (Utf8.encode " ".toList))
  obtain ⟨-, -, -, -, hsilent⟩ := run_log DirectiveList.reader bareMachine false
    (PlainLines.ofBytes input) (some (Utf8.encode " ".toList)) none
  refine ⟨hstdout, ?_, (hsilent DirectiveList.knowsOff_reader ?_).1⟩
  · have hadmits : (startup (some (Utf8.encode "minish=debug".toList)) false).filter
        DirectiveList.reader (.starting false) = true := by decide
    exact hevents ▸ List.mem_filter.2 ⟨.head _, hadmits⟩
  · intro t ht
    obtain rfl : [' '] = t := Option.some.inj ht
    exact .inl rfl

end Program

end LineShell
