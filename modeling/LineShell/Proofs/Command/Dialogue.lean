import LineShell.Surroundings
import LineShell.Writer

/-!
# Commands step by step

A reply tells of a command at once what it says and which calls it makes, as if nothing could come
between. A *dialogue* is the command step by step: it asks and goes on with the answer, or writes
and goes on if the bytes were taken. A write that fails ends it there, whatever it still had in mind
(`Dialogue.hold`).

## What a writer can do to a dialogue

What the writer takes is always a beginning of what the dialogue would have written without a limit
(`taken_hold`), but the calls behind a write that fails are lost. A dialogue that asks nothing once
it has written has no such calls (`WritesLast`). It makes the same calls for every writer, and so a
reply says all there is to say about it (`hold_eq`).
-/

namespace LineShell

/-- A command step by step. -/
inductive Dialogue where
  /-- It is over. -/
  | done
  /-- It asks for the home directory. -/
  | home (next : Option Path → Dialogue)
  /-- It asks to be moved, and hears whether it was. -/
  | move (target : Path) (next : Bool → Dialogue)
  /-- It writes bytes, and goes on if all of them were taken. -/
  | write (bytes : Bytes) (next : Dialogue)

/-- What a dialogue has come to. -/
structure Course where
  /-- The calls that were made, the earliest first. -/
  calls : List Call
  /-- The bytes that the writer has taken. -/
  taken : Bytes
  /-- Why the writer has refused bytes, if it has. -/
  fault? : Option Fault
  deriving DecidableEq, Repr

namespace Dialogue

/-- Holds a dialogue with some surroundings and a writer. -/
def hold (s : Surroundings) : Writer → Dialogue → Course
  | _, .done => ⟨[], [], none⟩
  | w, .home next =>
    let c := hold s w (next s.home)
    { c with calls := .home :: c.calls }
  | w, .move p next =>
    let c := hold s w (next (s.canEnter p))
    { c with calls := .move p :: c.calls }
  | w, .write bytes next =>
    if w.Fits bytes then
      let c := hold s (w.after bytes) next
      { c with taken := bytes ++ c.taken }
    else ⟨[], w.taken bytes, w.fault? bytes⟩

/-- Whether all that is left of a dialogue is writing. -/
def OnlyWrites : Dialogue → Prop
  | .done => True
  | .write _ next => next.OnlyWrites
  | _ => False

/-- Whether a dialogue asks nothing once it has written. -/
def WritesLast : Dialogue → Prop
  | .done => True
  | .home next => ∀ answer, (next answer).WritesLast
  | .move _ next => ∀ moved, (next moved).WritesLast
  | .write _ next => next.OnlyWrites

variable {s : Surroundings} {d : Dialogue} {w : Writer} {bytes : Bytes} {next : Dialogue}

/-! ## One step -/

@[simp] theorem hold_done : done.hold s w = ⟨[], [], none⟩ := rfl

theorem hold_write_of_fits (h : w.Fits bytes) :
    (write bytes next).hold s w
      = { next.hold s (w.after bytes) with
          taken := bytes ++ (next.hold s (w.after bytes)).taken } :=
  if_pos h

theorem hold_write_of_not_fits (h : ¬ w.Fits bytes) :
    (write bytes next).hold s w = ⟨[], w.taken bytes, some w.fault⟩ := by
  rw [hold, if_neg h, Writer.fault?, if_neg h]

@[simp] theorem hold_write_unlimited :
    (write bytes next).hold s .unlimited
      = { next.hold s .unlimited with taken := bytes ++ (next.hold s .unlimited).taken } :=
  hold_write_of_fits (Writer.fits_unlimited bytes)

/-! ## What is written -/

/-- Every writer takes a beginning of what a dialogue would write without a limit: as much of it as
there is room for. -/
theorem taken_hold (d : Dialogue) (s : Surroundings) (w : Writer) :
    (d.hold s w).taken = w.taken (d.hold s .unlimited).taken := by
  induction d generalizing w with
  | done => exact (Writer.taken_of_fits w.fits_nil).symm
  | home next ih => exact ih s.home w
  | move p next ih => exact ih (s.canEnter p) w
  | write bytes next ih =>
    rw [hold_write_unlimited]
    by_cases h : w.Fits bytes
    · rw [hold_write_of_fits h, Writer.taken_append, Writer.taken_of_fits h, ih]
    · rw [hold_write_of_not_fits h, Writer.taken_append_of_not_fits h]

/-- A dialogue fails exactly for a writer that has no room for all that it would write. -/
theorem fault?_hold (d : Dialogue) (s : Surroundings) (w : Writer) :
    (d.hold s w).fault? = w.fault? (d.hold s .unlimited).taken := by
  induction d generalizing w with
  | done => exact (if_pos w.fits_nil).symm
  | home next ih => exact ih s.home w
  | move p next ih => exact ih (s.canEnter p) w
  | write bytes next ih =>
    rw [hold_write_unlimited, Writer.fault?]
    by_cases h : w.Fits bytes
    · rw [hold_write_of_fits h, ih, Writer.fault?]
      simp only [Writer.fits_append_iff, h, true_and, Writer.fault_after]
    · rw [hold_write_of_not_fits h, if_neg fun hall ↦ h (Writer.fits_append_iff.1 hall).1]

/-! ## What is asked -/

theorem calls_hold_of_onlyWrites (h : d.OnlyWrites) (s : Surroundings) (w : Writer) :
    (d.hold s w).calls = [] := by
  induction d generalizing w with
  | done => rfl
  | home next => exact h.elim
  | move p next => exact h.elim
  | write bytes next ih =>
    by_cases hfits : w.Fits bytes
    · rw [hold_write_of_fits hfits]
      exact ih h (w.after bytes)
    · rw [hold_write_of_not_fits hfits]

/-- No writer changes what is asked by a dialogue that asks nothing once it has written. -/
theorem calls_hold (h : d.WritesLast) (s : Surroundings) (w : Writer) :
    (d.hold s w).calls = (d.hold s .unlimited).calls := by
  induction d with
  | done => rfl
  | home next ih => exact congrArg (Call.home :: ·) (ih s.home (h s.home))
  | move p next ih => exact congrArg (Call.move p :: ·) (ih (s.canEnter p) (h (s.canEnter p)))
  | write bytes next =>
    have hwrite : (write bytes next).OnlyWrites := h
    rw [calls_hold_of_onlyWrites hwrite, calls_hold_of_onlyWrites hwrite]

/-- **A dialogue that asks nothing once it has written is settled by its course without a limit.** A
writer takes of that what it has room for, and nothing else is different. -/
theorem hold_eq (h : d.WritesLast) (s : Surroundings) (w : Writer) :
    d.hold s w
      = ⟨(d.hold s .unlimited).calls, w.taken (d.hold s .unlimited).taken,
          w.fault? (d.hold s .unlimited).taken⟩ := by
  rw [← calls_hold h s w, ← taken_hold, ← fault?_hold]

end Dialogue

end LineShell
