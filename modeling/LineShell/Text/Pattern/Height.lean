import LineShell.Text

/-!
# Heights of patterns

How deep the parts of a pattern lie in one another is limited. What stands for single characters, or
for none, has height 0. Groups, repetitions and classes are one higher than what is in them, and so
are parts that follow one another, alternatives, and the items of a class, if there are at least two
of them.

No tree is built for this. What is open while a pattern is read keeps a *series* for each list that
is still growing in it, and a series only knows how long it is and how high its highest member is.
-/

namespace LineShell.Pattern

/-- The greatest height that a pattern may have. -/
def heightLimit : Nat := 250

/-! ## Series -/

/-- Things that stand beside each other. -/
structure Series where
  /-- How many they are. -/
  count : Nat
  /-- The greatest of their heights. -/
  highest : Nat
  deriving DecidableEq, Repr

namespace Series

/-- No things. -/
def empty : Series := ⟨0, 0⟩

/-- One more thing, of a given height. -/
def add (s : Series) (height : Nat) : Series := ⟨s.count + 1, max s.highest height⟩

/-- The height of all of them together. A thing that has none beside it stands for itself. -/
def height (s : Series) : Nat := if s.count ≤ 1 then s.highest else s.highest + 1

end Series

/-! ## Groups -/

/-- A group, or the whole pattern, as far as it has been read. -/
structure Group where
  /-- The alternatives before the one that is being read. -/
  branches : Series
  /-- The parts of that one, without the last if that can be repeated. -/
  parts : Series
  /-- The height of the last part, if it can be repeated. -/
  last : Option Nat
  deriving DecidableEq, Repr

namespace Group

/-- A group of which nothing has been read. -/
def empty : Group := ⟨.empty, .empty, none⟩

/-- All parts of the alternative that is being read. -/
def allParts (g : Group) : Series :=
  match g.last with
  | none => g.parts
  | some height => g.parts.add height

/-- The group with one more part, which can be repeated. -/
def append (g : Group) (height : Nat) : Group :=
  { g with parts := g.allParts, last := some height }

/-- The group with flags for the rest of it. They are a part, but nothing to repeat. -/
def appendFlags (g : Group) : Group := { g with parts := g.allParts.add 0, last := none }

/-- The group with its last part repeated. -/
def repeatLast? (g : Group) : Option Group :=
  g.last.map fun height ↦ { g with last := some (height + 1) }

/-- The group at the start of a further alternative. -/
def divide (g : Group) : Group := ⟨g.branches.add g.allParts.height, .empty, none⟩

/-- The height of what has been read of the group. -/
def height (g : Group) : Nat := (g.branches.add g.allParts.height).height

end Group

/-! ## Classes -/

/-- A class in brackets, as far as it has been read. -/
structure Bracket where
  /-- The height of what stands before the last operator, if there is one. -/
  left : Option Nat
  /-- The items behind it. -/
  items : Series
  deriving DecidableEq, Repr

namespace Bracket

/-- A class of which nothing has been read. -/
def empty : Bracket := ⟨none, .empty⟩

/-- The class with one more item. -/
def append (b : Bracket) (height : Nat) : Bracket := { b with items := b.items.add height }

/-- The height of what has been read between the brackets. -/
def innerHeight (b : Bracket) : Nat :=
  match b.left with
  | none => b.items.height
  | some left => max left b.items.height + 1

/-- The class behind an operator that takes all before it. -/
def combine (b : Bracket) : Bracket := ⟨some b.innerHeight, .empty⟩

/-- The height of the class with its brackets. -/
def height (b : Bracket) : Nat := b.innerHeight + 1

end Bracket

end LineShell.Pattern
