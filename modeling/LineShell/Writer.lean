import LineShell.Fault

/-!
# Writers of limited room

A writer takes bytes until its room is used up, and fails on the first byte that does not fit, with
a fault of its own. What it has taken by then stays taken. A writer without a limit never fails.
-/

namespace LineShell

/-- A writer: how many bytes it can still take, if that is limited, and how it fails. -/
structure Writer where
  /-- The room that is left. -/
  room : Option Nat
  /-- Why it does not take more. -/
  fault : Fault
  deriving DecidableEq, Repr

namespace Writer

/-- A writer that takes everything. -/
def unlimited : Writer := ⟨none, .full⟩

/-- What a writer takes of some bytes. -/
def taken (w : Writer) (bytes : Bytes) : Bytes :=
  match w.room with
  | none => bytes
  | some n => bytes.take n

/-- The writer after some bytes. -/
def after (w : Writer) (bytes : Bytes) : Writer :=
  { w with room := w.room.map (· - bytes.length) }

/-- Whether some bytes fit. -/
def Fits (w : Writer) (bytes : Bytes) : Prop := ∀ n ∈ w.room, bytes.length ≤ n

instance (w : Writer) (bytes : Bytes) : Decidable (w.Fits bytes) :=
  match h : w.room with
  | none => .isTrue (by simp [Fits, h])
  | some n => decidable_of_iff (bytes.length ≤ n) (by simp [Fits, h])

/-- Why bytes are not written, if they are not. -/
def fault? (w : Writer) (bytes : Bytes) : Option Fault :=
  if w.Fits bytes then none else some w.fault

@[simp] theorem fits_unlimited (bytes : Bytes) : unlimited.Fits bytes := by simp [Fits, unlimited]

@[simp] theorem fault_after (w : Writer) (bytes : Bytes) : (w.after bytes).fault = w.fault := rfl

@[simp] theorem fits_nil (w : Writer) : w.Fits [] := by simp [Fits]

theorem taken_prefix (w : Writer) (bytes : Bytes) : w.taken bytes <+: bytes := by
  rw [taken]
  split
  · exact List.prefix_refl _
  · exact List.take_prefix ..

theorem taken_of_fits {w : Writer} {bytes : Bytes} (h : w.Fits bytes) : w.taken bytes = bytes := by
  rw [taken]
  split
  · rfl
  · next n hn => exact List.take_of_length_le (h n hn)

theorem taken_eq_iff {w : Writer} {bytes : Bytes} : w.taken bytes = bytes ↔ w.Fits bytes := by
  refine ⟨fun h n hn ↦ ?_, taken_of_fits⟩
  rw [taken, hn] at h
  rw [← h]
  exact List.length_take_le n bytes

/-! ## One after the other -/

@[simp] theorem after_nil (w : Writer) : w.after [] = w := by
  rcases w with ⟨_ | n, fault⟩ <;> rfl

theorem after_append (w : Writer) (b c : Bytes) : w.after (b ++ c) = (w.after b).after c := by
  rw [after, after, after, Option.map_map]
  congr 2
  funext n
  rw [List.length_append, Function.comp_apply, Nat.sub_sub]

theorem fits_append_iff {w : Writer} {b c : Bytes} :
    w.Fits (b ++ c) ↔ w.Fits b ∧ (w.after b).Fits c := by
  rcases w with ⟨_ | n, fault⟩
  · simp [Fits, after]
  · simp only [Fits, after, Option.map_some, Option.mem_some_iff, forall_eq', List.length_append]
    omega

theorem taken_append (w : Writer) (b c : Bytes) :
    w.taken (b ++ c) = w.taken b ++ (w.after b).taken c := by
  rcases w with ⟨_ | n, fault⟩
  · rfl
  · exact List.take_append

/-- Bytes that do not fit are the last of which anything is taken. -/
theorem taken_append_of_not_fits {w : Writer} {b : Bytes} (h : ¬ w.Fits b) (c : Bytes) :
    w.taken (b ++ c) = w.taken b := by
  rcases w with ⟨_ | n, fault⟩
  · exact absurd (fits_unlimited b) h
  · have hlt : n < b.length := by simpa [Fits] using h
    exact List.take_append_of_le_length (Nat.le_of_lt hlt)

/-- Some bytes fit as often as their length goes into the room. -/
theorem fits_flatten_replicate_iff {bytes : Bytes} (h : bytes ≠ []) {room k : Nat} {fault : Fault} :
    Fits ⟨some room, fault⟩ (List.replicate k bytes).flatten ↔ k ≤ room / bytes.length := by
  rw [Nat.le_div_iff_mul_le (List.length_pos_iff.2 h), Fits, List.length_flatten,
    List.map_replicate, List.sum_replicate_nat]
  simp

end Writer

end LineShell
