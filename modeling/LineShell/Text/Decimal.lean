import LineShell.Text

/-!
# Decimal numbers

Numbers as a user writes them: ASCII digits, leading zeros allowed, with at most one sign in front.
Reading is exact for any number of digits, so that a range is judged on the value and never on the
length of what was written. `natural?` and `integer?` accept nothing else; in particular no blank,
no separator and no lone sign. `isReal` also knows fractions, powers of ten and the names of what is
no finite number; it only says whether a text is one.
-/

namespace LineShell.Decimal

/-! ## Writing -/

/-- The decimal text of a natural number, without leading zeros. -/
def ofNat (n : Nat) : Text := Nat.toDigits 10 n

/-- The decimal text of an integer, with `-` before a negative one. -/
def ofInt : Int → Text
  | .ofNat n => ofNat n
  | .negSucc n => '-' :: ofNat (n + 1)

/-! ## Reading -/

/-- The value of a digit. -/
def digit (c : Char) : Nat := c.toNat - '0'.toNat

/-- The value of a list of digits, the first of them the most significant. -/
def value (t : Text) : Nat := t.foldl (fun v c ↦ 10 * v + digit c) 0

/-- Reads one or more digits. -/
def natural? (t : Text) : Option Nat :=
  if t ≠ [] ∧ t.all Char.isDigit then some (value t) else none

/-- Reads one or more digits with at most one sign before them. -/
def integer? : Text → Option Int
  | '-' :: t => (natural? t).map fun n ↦ -(n : Int)
  | '+' :: t => (natural? t).map Int.ofNat
  | t => (natural? t).map Int.ofNat

/-- Reads one or more digits with at most a plus sign before them. -/
def unsigned? : Text → Option Nat
  | '+' :: t => natural? t
  | t => natural? t

/-- The names of the numbers that are not finite, in lower case. -/
def notFinite : List Text := ["inf".toList, "infinity".toList, "nan".toList]

/-- Whether a text is digits with at most one point before, between or behind them and, behind `e`,
an integer as the power of ten. -/
def isFloating (t : Text) : Bool :=
  let mantissa := t.takeWhile (· ≠ 'e')
  let digits := mantissa.takeWhile (· ≠ '.') ++ (mantissa.dropWhile (· ≠ '.')).drop 1
  let exponent := t.dropWhile (· ≠ 'e')
  (natural? digits).isSome && (exponent = [] || (integer? (exponent.drop 1)).isSome)

/-- Whether a text is a real number, with at most one sign before it and letters in any case. -/
def isReal (t : Text) : Bool :=
  let unsigned := match t with
    | '-' :: t | '+' :: t => t
    | t => t
  let lower := unsigned.map Char.toLower
  notFinite.contains lower || isFloating lower

/-- The integers that fit into 32 bits. -/
def FitsInt32 (v : Int) : Prop := -0x80000000 ≤ v ∧ v < 0x80000000

instance (v : Int) : Decidable (FitsInt32 v) := inferInstanceAs (Decidable (_ ∧ _))

/-- Reads an integer that fits into 32 bits. -/
def int32? (t : Text) : Option Int := (integer? t).filter fun v ↦ FitsInt32 v

/-! ## Laws -/

theorem natural?_eq_some_iff {t : Text} {n : Nat} :
    natural? t = some n ↔ t ≠ [] ∧ (∀ c ∈ t, c.isDigit = true) ∧ value t = n := by
  simp [natural?, and_assoc]

theorem int32?_eq_some_iff {t : Text} {v : Int} :
    int32? t = some v ↔ integer? t = some v ∧ FitsInt32 v := by
  simp [int32?, Option.filter_eq_some_iff]

@[simp] theorem value_append_singleton (t : Text) (c : Char) :
    value (t ++ [c]) = 10 * value t + digit c := by
  simp [value]

end LineShell.Decimal
