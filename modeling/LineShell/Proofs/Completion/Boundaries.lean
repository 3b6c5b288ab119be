import LineShell.Completion
import Mathlib.Data.List.TakeWhile

/-!
# Positions between characters

Positions in a line count bytes, and not every position can be cut at. Those that can are the sizes
of the texts with which the line begins (`Utf8.IsBoundary`), and they are where `splitAtByte?` has
an answer (`splitAtByte?_eq_some_iff`).

A completion is asked for at a position and gives another, where the word begins. It cuts the line
in three: what stands before the word, the word, and what stands behind the position. All of that
lies on boundaries again (`slices_of_complete?`), whatever the widths of the characters are. Only the
names of files are completed by another, who gets the whole line and the position.
-/

namespace LineShell

namespace Utf8

variable {n : Nat} {s t a b : Text}

theorem size_append (s t : Text) : size (s ++ t) = size s + size t := by
  rw [size, size, size, encode_append, List.length_append]

/-- A text is cut at a position exactly if one part of it has that size. -/
theorem splitAtByte?_eq_some_iff : splitAtByte? n t = some (a, b) ↔ t = a ++ b ∧ n = size a := by
  constructor
  · intro h
    induction t generalizing n a with
    | nil =>
      rcases n with _ | n
      · obtain ⟨rfl, rfl⟩ := Prod.mk.inj (Option.some.inj h)
        exact ⟨rfl, rfl⟩
      · exact absurd h (by simp [splitAtByte?])
    | cons c t ih =>
      rcases n.eq_zero_or_pos with rfl | hn
      · obtain ⟨rfl, rfl⟩ := Prod.mk.inj (Option.some.inj h)
        exact ⟨rfl, rfl⟩
      · rw [splitAtByte?_of_pos hn] at h
        split at h
        · next hwidth =>
          obtain ⟨⟨a', b'⟩, hcut, hparts⟩ := Option.map_eq_some_iff.1 h
          obtain ⟨rfl, rfl⟩ := Prod.mk.inj hparts
          obtain ⟨rfl, hsize⟩ := ih hcut
          have hsize : n - (encodeChar c).length = size a' := hsize
          refine ⟨rfl, ?_⟩
          rw [size_cons, ← hsize, Nat.add_sub_cancel' hwidth]
        · exact absurd h (by simp)
  · rintro ⟨rfl, rfl⟩
    exact splitAtByte?_size_append a b

/-- Whether a position in a text is one where a character begins, or the end. -/
def IsBoundary (t : Text) (n : Nat) : Prop :=
  ∃ before behind, t = before ++ behind ∧ n = size before

theorem isSome_splitAtByte?_iff : (splitAtByte? n t).isSome ↔ IsBoundary t n := by
  constructor
  · intro h
    obtain ⟨⟨before, behind⟩, hcut⟩ := Option.isSome_iff_exists.1 h
    exact ⟨before, behind, splitAtByte?_eq_some_iff.1 hcut⟩
  · rintro ⟨before, behind, h⟩
    rw [splitAtByte?_eq_some_iff.2 h]
    rfl

theorem isBoundary_size_append (before behind : Text) :
    IsBoundary (before ++ behind) (size before) := ⟨before, behind, rfl, rfl⟩

theorem slice?_zero (before behind : Text) :
    slice? (before ++ behind) 0 (size before) = some before := by
  have h := slice?_append [] before behind
  rwa [List.nil_append, size_nil, Nat.zero_add] at h

end Utf8

/-! ## Where the word begins -/

theorem space_not_mem_lastWord (t : Text) : ' ' ∉ lastWord t := by
  intro h
  rw [lastWord, List.mem_reverse] at h
  simpa using List.mem_takeWhile_imp h

/-- What stands before the unfinished word is nothing, or ends in a space. -/
theorem beforeLastWord_eq_nil_or (t : Text) :
    beforeLastWord t = [] ∨ ∃ blank, beforeLastWord t = blank ++ [' '] := by
  have hhead := List.head?_dropWhile_not (fun c ↦ decide (c ≠ ' ')) t.reverse
  rw [beforeLastWord]
  generalize t.reverse.dropWhile (fun c ↦ decide (c ≠ ' ')) = l at hhead ⊢
  rcases l with _ | ⟨c, rest⟩
  · exact .inl rfl
  · obtain rfl : c = ' ' := by simpa using hhead
    exact .inr ⟨rest.reverse, List.reverse_cons⟩

/-- Where the unfinished word of a text begins, its size is known. -/
theorem size_beforeLastWord_add (t : Text) :
    Utf8.size (beforeLastWord t) + Utf8.size (lastWord t) = Utf8.size t := by
  rw [← Utf8.size_append, beforeLastWord_append_lastWord]

namespace Machine

variable {m : Machine} {files : FileCompleter} {line : Text} {pos : Nat}

/-- There is an answer at every boundary, and nowhere else. -/
theorem isSome_complete?_iff : (m.complete? files line pos).isSome ↔ Utf8.IsBoundary line pos := by
  rw [complete?, Option.isSome_map, Utf8.isSome_splitAtByte?_iff]

/-- **A completion cuts a line between characters.** The word begins at a boundary that is not behind
the position, and right behind the last space before the position or with the line, so that the word
up to the position has no space in it. Behind blanks commands are offered from there on, and the files
are left to their completer. -/
theorem slices_of_complete? (hpos : Utf8.IsBoundary line pos) :
    ∃ start blank word, start ≤ pos ∧ Utf8.IsBoundary line start ∧
      Utf8.slice? line 0 pos = some (blank ++ word) ∧ Utf8.slice? line start pos = some word ∧
      Utf8.slice? line 0 start = some blank ∧
      ' ' ∉ word ∧ (blank = [] ∨ ∃ rest, blank = rest ++ [' ']) ∧
      m.complete? files line pos = some (if isBlank blank then
        .ok ⟨start, (m.commandNames word m.searchPath).map Candidate.ofCommand⟩
        else files line pos) := by
  obtain ⟨before, behind, rfl, rfl⟩ := hpos
  have hbefore := beforeLastWord_append_lastWord before
  have hsize := size_beforeLastWord_add before
  have hline : before ++ behind = beforeLastWord before ++ (lastWord before ++ behind) := by
    rw [← List.append_assoc, hbefore]
  refine ⟨Utf8.size (beforeLastWord before), beforeLastWord before, lastWord before, by omega, ?_,
    ?_, ?_, ?_, space_not_mem_lastWord before, beforeLastWord_eq_nil_or before, ?_⟩
  · rw [hline]
    exact Utf8.isBoundary_size_append _ _
  · rw [hbefore]
    exact Utf8.slice?_zero before behind
  · rw [hline, ← hsize, ← List.append_assoc]
    exact Utf8.slice?_append _ _ _
  · rw [hline]
    exact Utf8.slice?_zero _ _
  · rw [complete?, Utf8.splitAtByte?_size_append]
    rfl

end Machine

end LineShell
