import LineShell.Event.Directive
import LineShell.Event.Filter

/-!
# Lists of directives

A way to write filters: directives with commas between them. A text with something else between its
commas is no filter, and is read without it if it must be read. For an event the narrowest directive
that is for it decides, and of two that are equally narrow the later one. An event that no directive
is for is not written.
-/

namespace LineShell

/-- Directives, in the order in which they were given. -/
abbrev DirectiveList := List Directive

namespace DirectiveList

/-- The texts of the directives in a text. Empty ones count for nothing. -/
def texts (t : Text) : List Text := (t.splitOn ',').filter (· ≠ [])

/-- The directive that decides on an event: the narrowest that is for it, and of those the last. -/
def deciding? (ds : DirectiveList) (e : Event) : Option Directive :=
  (ds.filter fun d ↦ d.AppliesTo e).foldl (fun best d ↦
    match best with
    | some b => if b.atMost d then some d else best
    | none => some d) none

/-- The filter of some directives. -/
def toFilter (ds : DirectiveList) : Filter :=
  fun e ↦ (ds.deciding? e).any fun d ↦ e.level.rank ≤ d.rank

/-- The reader of filters that are written as directives. -/
def reader : FilterReader where
  read? t := ((texts t).mapM Directive.ofText?).map toFilter
  readLossy t := toFilter ((texts t).filterMap Directive.ofText?)

/-- A level alone admits all events that are important enough. -/
theorem toFilter_level (r : Nat) (e : Event) :
    toFilter [⟨[], .all, r⟩] e = decide (e.level.rank ≤ r) := by
  simp [toFilter, deciding?, Directive.AppliesTo, Scope.Covers]

theorem knowsOff_reader : reader.KnowsOff := by
  intro e
  have hoff : (texts FilterReader.offText).filterMap Directive.ofText? = [⟨[], .all, 0⟩] := by decide
  rw [reader]
  dsimp only
  rw [hoff, toFilter_level]
  cases e <;> rfl

end DirectiveList

end LineShell
