import LineShell.Text.Decimal
import Mathlib.Data.List.Induction
import Mathlib.Data.Nat.Digits.Defs

/-!
# What numerals denote

A numeral is one or more digits with at most one sign before them, and it denotes the sum of its
digits, each times the power of ten of its place (`Denotes`). Nothing is said of how it is read.
Reading it from the left comes to that number, however long it is, and no other text is read at all
(`integer?_eq_some_iff`). The text that is written for an integer is one of its numerals
(`denotes_ofInt`), and what more there are only have a plus sign or zeros in front.
-/

namespace LineShell.Decimal

/-! ## Digits -/

/-- Whether a text is one or more ASCII digits. -/
def IsDigits (t : Text) : Prop := t ≠ [] ∧ ∀ c ∈ t, '0' ≤ c ∧ c ≤ '9'

/-- The sum of the digits of a text, each times the power of ten of its place. The last one stands
in the place of the ones. -/
def placeValue (t : Text) : Nat := Nat.ofDigits 10 (t.reverse.map digit)

/-- Reading digits from the left comes to the sum over their places. -/
theorem value_eq_placeValue (t : Text) : value t = placeValue t := by
  induction t using List.reverseRecOn with
  | nil => rfl
  | append_singleton t c ih =>
    rw [value_append_singleton, ih, placeValue, placeValue, List.reverse_append, Nat.add_comm]
    exact Nat.ofDigits_cons.symm

theorem isDigit_iff {c : Char} : c.isDigit = true ↔ '0' ≤ c ∧ c ≤ '9' := by
  simp [Char.isDigit, Char.le_def]

/-- What is read from digits, with whatever their value is then used for. -/
theorem map_natural?_eq_some_iff {t : Text} {f : Nat → Int} {v : Int} :
    (natural? t).map f = some v ↔ IsDigits t ∧ f (placeValue t) = v := by
  rw [Option.map_eq_some_iff, IsDigits, ← value_eq_placeValue]
  constructor
  · rintro ⟨n, hn, rfl⟩
    obtain ⟨hne, hdigits, rfl⟩ := natural?_eq_some_iff.1 hn
    exact ⟨⟨hne, fun c hc ↦ isDigit_iff.1 (hdigits c hc)⟩, rfl⟩
  · rintro ⟨⟨hne, hdigits⟩, rfl⟩
    refine ⟨value t, natural?_eq_some_iff.2 ⟨hne, ?_, rfl⟩, rfl⟩
    exact fun c hc ↦ isDigit_iff.2 (hdigits c hc)

/-! ## Signs -/

/-- Whether a text is a numeral for an integer. -/
inductive Denotes : Text → Int → Prop where
  /-- Digits without a sign. -/
  | unsigned {t : Text} (h : IsDigits t) : Denotes t (placeValue t)
  /-- Digits behind a plus sign. -/
  | plus {t : Text} (h : IsDigits t) : Denotes ('+' :: t) (placeValue t)
  /-- Digits behind a minus sign. -/
  | minus {t : Text} (h : IsDigits t) : Denotes ('-' :: t) (-placeValue t)

theorem not_isDigits_of_lt {c : Char} (h : c < '0') (t : Text) : ¬ IsDigits (c :: t) :=
  fun hdigits ↦ Char.not_le.2 h (hdigits.2 c List.mem_cons_self).1

theorem integer?_minus (t : Text) :
    integer? ('-' :: t) = (natural? t).map fun n : Nat ↦ -(n : Int) := by
  rw [integer?]
  rcases natural? t with _ | n <;> rfl

theorem integer?_plus (t : Text) : integer? ('+' :: t) = (natural? t).map Int.ofNat := rfl

theorem integer?_unsigned {t : Text} (hminus : ∀ u, t ≠ '-' :: u) (hplus : ∀ u, t ≠ '+' :: u) :
    integer? t = (natural? t).map Int.ofNat := by
  rw [integer?.eq_def]
  split
  · exact absurd rfl (hminus _)
  · exact absurd rfl (hplus _)
  · rfl

/-- **An integer is read from its numerals,** and from nothing else. -/
theorem integer?_eq_some_iff {t : Text} {v : Int} : integer? t = some v ↔ Denotes t v := by
  constructor
  · intro h
    by_cases hminus : ∃ u, t = '-' :: u
    · obtain ⟨u, rfl⟩ := hminus
      rw [integer?_minus, map_natural?_eq_some_iff] at h
      obtain ⟨hdigits, rfl⟩ := h
      exact .minus hdigits
    by_cases hplus : ∃ u, t = '+' :: u
    · obtain ⟨u, rfl⟩ := hplus
      rw [integer?_plus, map_natural?_eq_some_iff] at h
      obtain ⟨hdigits, rfl⟩ := h
      exact .plus hdigits
    · rw [integer?_unsigned (not_exists.1 hminus) (not_exists.1 hplus),
        map_natural?_eq_some_iff] at h
      obtain ⟨hdigits, rfl⟩ := h
      exact .unsigned hdigits
  · rintro (hdigits | hdigits | hdigits)
    · -- Signs come before the digits in the order of characters, so these are none.
      have hsign {c : Char} (hc : c < '0') (u : Text) : t ≠ c :: u := by
        rintro rfl
        exact not_isDigits_of_lt hc u hdigits
      rw [integer?_unsigned (hsign (by decide)) (hsign (by decide))]
      exact map_natural?_eq_some_iff.2 ⟨hdigits, rfl⟩
    · rw [integer?_plus]
      exact map_natural?_eq_some_iff.2 ⟨hdigits, rfl⟩
    · rw [integer?_minus]
      exact map_natural?_eq_some_iff.2 ⟨hdigits, rfl⟩

/-! ## Writing -/

theorem isDigits_ofNat (n : Nat) : IsDigits (ofNat n) :=
  ⟨Nat.toDigits_ne_nil, fun _ hc ↦
    isDigit_iff.1 (Nat.isDigit_of_mem_toDigits (by decide) (Nat.le_refl 10) hc)⟩

theorem placeValue_ofNat (n : Nat) : placeValue (ofNat n) = n := by
  rw [← value_eq_placeValue]
  exact Nat.ofDigitChars_eq_foldl.symm.trans Nat.ofDigitChars_ten_toDigits

/-- The text of an integer is a numeral for it. -/
theorem denotes_ofInt (v : Int) : Denotes (ofInt v) v := by
  rcases v with n | n
  · have hdenotes := Denotes.unsigned (isDigits_ofNat n)
    rwa [placeValue_ofNat] at hdenotes
  · have hdenotes := Denotes.minus (isDigits_ofNat (n + 1))
    rwa [placeValue_ofNat] at hdenotes

end LineShell.Decimal
