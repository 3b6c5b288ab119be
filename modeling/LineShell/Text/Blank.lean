import LineShell.Text

/-!
# Blank characters

The characters of Unicode's property White_Space. A text of nothing else is *blank*: a blank log
filter counts as none, and blank text before a word leaves that word the first of its line. Blanks
around a text are what `trimBlank` takes away.
-/

namespace LineShell

/-- The ranges of the property White_Space, in increasing order. -/
def blankRanges : List (Nat × Nat) :=
  [(0x09, 0x0D), (0x20, 0x20), (0x85, 0x85), (0xA0, 0xA0), (0x1680, 0x1680), (0x2000, 0x200A),
    (0x2028, 0x2029), (0x202F, 0x202F), (0x205F, 0x205F), (0x3000, 0x3000)]

/-- Whether a character has the property White_Space. -/
def isBlankChar (c : Char) : Bool := liesIn blankRanges c

/-- Whether a text has no character but blank ones; the empty text is blank. -/
def isBlank (t : Text) : Bool := t.all isBlankChar

/-- A text without the blanks at its two ends. -/
def trimBlank (t : Text) : Text :=
  ((t.dropWhile isBlankChar).reverse.dropWhile isBlankChar).reverse

theorem isBlank_iff {t : Text} : isBlank t = true ↔ ∀ c ∈ t, isBlankChar c = true := by
  simp [isBlank]

@[simp] theorem isBlank_append (s t : Text) : isBlank (s ++ t) = (isBlank s && isBlank t) := by
  simp [isBlank]

end LineShell
