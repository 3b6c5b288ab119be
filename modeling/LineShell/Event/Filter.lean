import LineShell.Event

/-!
# Filters of events

Which events are written to a log is decided by a filter. What texts stand for filters, and what
these filters admit, is the affair of whoever reads them (`FilterReader`). The shell gives a reader
the text that it was told to use, and, where there is none or the reader makes nothing of it, the
text `off`, with which nothing is to be logged (`FilterReader.KnowsOff`).
-/

namespace LineShell

/-- Which events are written. -/
abbrev Filter := Event → Bool

/-- The filter that admits nothing. -/
def Filter.off : Filter := fun _ ↦ false

/-- A reader of filters. -/
structure FilterReader where
  /-- The filter that a text stands for, if it stands for one. -/
  read? : Text → Option Filter
  /-- The filter for what of a text can be read. -/
  readLossy : Text → Filter

namespace FilterReader

/-- The text that asks for no log. -/
def offText : Text := "off".toList

/-- Whether a reader knows the text that asks for no log. -/
def KnowsOff (r : FilterReader) : Prop := ∀ e, r.readLossy offText e = false

end FilterReader

end LineShell
