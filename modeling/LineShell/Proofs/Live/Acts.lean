import LineShell.Shell
import LineShell.World

/-!
# What acts come to

An act changes a world, and what it does can depend on all of that, and on the filter for the log as
well. An outcome tells of a run from its end, by a machine and a transcript, and no filter is in it.
An act *comes to* an outcome on a machine if under every filter, and whatever has been written
before, it ends as the outcome says, leaves its machine, and has written the transcript: all of its
output, all of its errors, and of its events those that the filter admits, at their places among the
errors (`Act.ComesTo`).

What comes to an outcome has therefore the same effect under every filter. The laws here say what
the parts of an act have to come to for the whole to come to something.
-/

namespace LineShell

/-! ## Transcripts in the world -/

/-- What an emission adds to the pieces of standard error while a filter decides on events. -/
def Emission.toErrorPieces (f : Filter) : Emission → List ErrorPiece
  | .prompt _ | .out _ => []
  | .err bytes => [.plain bytes]
  | .event e => if f e then [.log e] else []

/-- The pieces of standard error while a filter decides on events. -/
def Transcript.errorPieces (f : Filter) (t : Transcript) : List ErrorPiece :=
  t.flatMap (Emission.toErrorPieces f)

@[simp] theorem Transcript.errorPieces_append (f : Filter) (s t : Transcript) :
    errorPieces f (s ++ t) = errorPieces f s ++ errorPieces f t :=
  List.flatMap_append

variable {α β : Type}

/-- The world after an outcome: its machine, and what came out behind what was there. -/
def World.after (w : World) (f : Filter) (o : Outcome α) : World :=
  ⟨o.machine, w.stdout ++ o.transcript.stdout, w.stderr ++ o.transcript.errorPieces f⟩

/-- Two outcomes one after the other are the second of them after what came out of the first. -/
theorem World.after_after (w : World) (f : Filter) (o : Outcome α) (next : Outcome β) :
    (w.after f o).after f next = w.after f (next.after o.transcript) := by
  simp [after, Outcome.after]

@[simp] theorem World.after_nil (w : World) (f : Filter) (result : Except Halt α) (m : Machine) :
    w.after f ⟨result, m, []⟩ = { w with machine := m } := by
  simp [after, Transcript.stdout, Transcript.errorPieces]

@[simp] theorem World.after_singleton (w : World) (f : Filter) (result : Except Halt α) (m : Machine)
    (e : Emission) :
    w.after f ⟨result, m, [e]⟩ = ⟨m, w.stdout ++ e.toStdout, w.stderr ++ e.toErrorPieces f⟩ := by
  simp [after, Transcript.stdout, Transcript.errorPieces]

namespace Act

/-- Whether an act comes to an outcome on a machine: under every filter and in every world with that
machine it ends like the outcome, in the world after it. -/
def ComesTo (a : Act α) (m : Machine) (o : Outcome α) : Prop :=
  ∀ f w, w.machine = m → a.run f w = (o.result, w.after f o)

variable {a : Act α} {k : α → Act β} {m m' : Machine} {t : Transcript} {o : Outcome β}

/-! ## Single acts -/

theorem comesTo_pure (x : α) (m : Machine) : (pure x : Act α).ComesTo m ⟨.ok x, m, []⟩ := by
  rintro f w rfl
  rw [World.after_nil]
  rfl

theorem comesTo_throw (halt : Halt) (m : Machine) :
    (throw halt : Act α).ComesTo m ⟨.error halt, m, []⟩ := by
  rintro f w rfl
  rw [World.after_nil]
  rfl

theorem comesTo_machine (m : Machine) : machine.ComesTo m ⟨.ok m, m, []⟩ := by
  rintro f w rfl
  rw [World.after_nil]
  rfl

theorem comesTo_setMachine (m m' : Machine) : (setMachine m').ComesTo m ⟨.ok (), m', []⟩ := by
  rintro f w rfl
  rw [World.after_nil]
  rfl

theorem comesTo_print (bytes : Bytes) (m : Machine) :
    (print bytes).ComesTo m ⟨.ok (), m, [.out bytes]⟩ := by
  rintro f w rfl
  rw [World.after_singleton, Emission.toErrorPieces, List.append_nil]
  rfl

/-- A prompt is written like everything else on standard output. -/
theorem comesTo_print_prompt (bytes : Bytes) (m : Machine) :
    (print bytes).ComesTo m ⟨.ok (), m, [.prompt bytes]⟩ := by
  rintro f w rfl
  rw [World.after_singleton, Emission.toErrorPieces, List.append_nil]
  rfl

theorem comesTo_complain (bytes : Bytes) (m : Machine) :
    (complain bytes).ComesTo m ⟨.ok (), m, [.err bytes]⟩ := by
  rintro f w rfl
  simp only [World.after_singleton, Emission.toStdout, List.append_nil]
  rfl

/-- A report has no effect but for its line, whether or not it is written. -/
theorem comesTo_report (e : Event) (m : Machine) :
    (report e).ComesTo m ⟨.ok (), m, [.event e]⟩ := by
  rintro f w rfl
  simp only [World.after_singleton, Emission.toStdout, Emission.toErrorPieces, List.append_nil]
  change (if f e = true then _ else pure () : Act Unit).run f w = _
  by_cases he : f e = true
  · rw [if_pos he, if_pos he]
    rfl
  · rw [if_neg he, if_neg he, List.append_nil]
    rfl

/-! ## Acts one after the other -/

theorem run_bind_of_ok {x : α} {f : Filter} {w w' : World} (h : a.run f w = (.ok x, w')) :
    (a >>= k).run f w = (k x).run f w' := by
  simp only [run, ReaderT.run_bind, ExceptT.run_bind, StateT.run_bind] at h ⊢
  rw [h]
  rfl

/-- What follows an act that succeeds goes on with its value, on the machine that it has left. -/
theorem ComesTo.bind {x : α} {r : Except Halt β} {m'' : Machine} {t' : Transcript}
    (ha : a.ComesTo m ⟨.ok x, m', t⟩) (hk : (k x).ComesTo m' ⟨r, m'', t'⟩) :
    (a >>= k).ComesTo m ⟨r, m'', t ++ t'⟩ := by
  intro f w hw
  rw [run_bind_of_ok (ha f w hw), hk f _ rfl, World.after_after]
  rfl

/-- An act that lets nothing out shows in what follows it by its value and the machine alone. -/
theorem ComesTo.bind_nil {x : α} (ha : a.ComesTo m ⟨.ok x, m', []⟩) (hk : (k x).ComesTo m' o) :
    (a >>= k).ComesTo m o :=
  ha.bind hk

/-- An act that is attempted does what it does, and its failure becomes a value. -/
theorem ComesTo.attempt {o : Outcome α} (ha : a.ComesTo m o) :
    a.attempt.ComesTo m ⟨.ok o.result, o.machine, o.transcript⟩ := by
  intro f w hw
  have hattempt : a.attempt.run f w = (.ok (a.run f w).1, (a.run f w).2) := rfl
  rw [hattempt, ha f w hw]
  rfl

end Act

end LineShell
