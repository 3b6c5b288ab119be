import LineShell.Text

/-!
# Flags of patterns

A group may set flags for what stands in it, and so may parentheses with nothing but flags for the
rest of what they stand in. The letters before a dash are set, those behind it are taken away. Only
three of them bear on what else is a pattern; `Flags` holds these and forgets the others.
-/

namespace LineShell.Pattern

/-- The flags that bear on what is a pattern. -/
structure Flags where
  /-- Letters stand for both cases: the flag `i`. -/
  folding : Bool
  /-- Characters are those of Unicode: the flag `u`. -/
  unicode : Bool
  /-- Blanks and comments count for nothing: the flag `x`. -/
  verbose : Bool
  deriving DecidableEq, Repr

namespace Flags

/-- The flags at the start of a pattern. -/
def initial : Flags := ⟨false, true, false⟩

/-- The letters of all flags. -/
def letters : List Char := ['i', 'm', 's', 'u', 'U', 'R', 'x']

/-- Sets the flag of a letter, or takes it away. -/
def set (f : Flags) (letter : Char) (on : Bool) : Flags :=
  match letter with
  | 'i' => { f with folding := on }
  | 'u' => { f with unicode := on }
  | 'x' => { f with verbose := on }
  | _ => f

/-- Sets the flags of the letters before a dash, and takes those behind it away. -/
def change (f : Flags) (t : Text) : Flags :=
  let added := (t.takeWhile (· ≠ '-')).foldl (fun f c ↦ f.set c true) f
  ((t.dropWhile (· ≠ '-')).drop 1).foldl (fun f c ↦ f.set c false) added

/-- Whether whatever stands for certain characters would need a table of cases. -/
def NeedCases (f : Flags) : Prop := f.folding = true ∧ f.unicode = true

instance (f : Flags) : Decidable f.NeedCases := inferInstanceAs (Decidable (_ ∧ _))

end Flags

end LineShell.Pattern
