import LineShell.Text

/-!
# UTF-8, strict and forgiving

Bytes are read once, from left to right, by a machine that knows which continuation bytes the
character it is inside still owes. `scan` cuts them into *pieces*: characters, and *faults*, each of
which is a longest run of bytes that starts a character and cannot go on, or one byte that starts
none. The decoders differ only in what they make of a fault.

* `decodeLossy` writes U+FFFD for each fault.
* `decode?` refuses bytes that have one.

The machine never looks back. A byte below 0x80 continues nothing, so after it the machine is where
it started; this is why reading a text line by line agrees with reading it at once
(`scan_append_of_ascii`). On encoded text it meets the characters and nothing else
(`scan_encode_append`).
-/

namespace LineShell.Utf8

/-! ## Encoding -/

/-- The bytes of one character: one, two, three or four, the first of them telling how many. -/
def encodeChar (c : Char) : Bytes :=
  let n := c.toNat
  if n < 0x80 then [.ofNat n]
  else if n < 0x800 then [.ofNat (0xC0 + n / 64), .ofNat (0x80 + n % 64)]
  else if n < 0x10000 then
    [.ofNat (0xE0 + n / 4096), .ofNat (0x80 + n / 64 % 64), .ofNat (0x80 + n % 64)]
  else
    [.ofNat (0xF0 + n / 262144), .ofNat (0x80 + n / 4096 % 64), .ofNat (0x80 + n / 64 % 64),
      .ofNat (0x80 + n % 64)]

/-- The bytes of a text. -/
def encode (t : Text) : Bytes := t.flatMap encodeChar

@[simp] theorem encode_nil : encode [] = [] := rfl

@[simp] theorem encode_cons (c : Char) (t : Text) : encode (c :: t) = encodeChar c ++ encode t :=
  List.flatMap_cons

@[simp] theorem encode_append (s t : Text) : encode (s ++ t) = encode s ++ encode t :=
  List.flatMap_append

/-- How many bytes a text has. -/
def size (t : Text) : Nat := (encode t).length

@[simp] theorem size_nil : size [] = 0 := rfl

@[simp] theorem size_cons (c : Char) (t : Text) :
    size (c :: t) = (encodeChar c).length + size t := by
  simp [size]

theorem length_encodeChar_pos (c : Char) : 0 < (encodeChar c).length := by
  simp only [encodeChar]
  repeat (split; · simp)
  simp

theorem encode_ne_nil {t : Text} (h : t ≠ []) : encode t ≠ [] := by
  obtain ⟨c, t, rfl⟩ := List.exists_cons_of_ne_nil h
  exact List.append_ne_nil_of_left_ne_nil (List.ne_nil_of_length_pos (length_encodeChar_pos c)) _

/-! ## Positions in bytes -/

/-- The text before and behind a byte position, if characters begin there. -/
def splitAtByte? : Nat → Text → Option (Text × Text)
  | 0, t => some ([], t)
  | _ + 1, [] => none
  | n + 1, c :: t =>
    let width := (encodeChar c).length
    if width ≤ n + 1 then (splitAtByte? (n + 1 - width) t).map fun s ↦ (c :: s.1, s.2) else none

/-- The text from one byte position up to another, if characters begin at both. -/
def slice? (t : Text) (start stop : Nat) : Option Text := do
  let (_, rest) ← splitAtByte? start t
  let (inner, _) ← splitAtByte? (stop - start) rest
  return inner

theorem splitAtByte?_of_pos {n : Nat} (h : 0 < n) (c : Char) (t : Text) :
    splitAtByte? n (c :: t) =
      if (encodeChar c).length ≤ n then
        (splitAtByte? (n - (encodeChar c).length) t).map fun s ↦ (c :: s.1, s.2)
      else none := by
  obtain ⟨n, rfl⟩ : ∃ m, n = m + 1 := ⟨n - 1, by omega⟩
  rfl

/-- A text is cut between two of its parts at the size of the first. -/
@[simp] theorem splitAtByte?_size_append (s t : Text) :
    splitAtByte? (size s) (s ++ t) = some (s, t) := by
  induction s with
  | nil => cases t <;> rfl
  | cons c s ih =>
    have := length_encodeChar_pos c
    rw [List.cons_append, size_cons, splitAtByte?_of_pos (by omega), if_pos (by omega),
      Nat.add_sub_cancel_left, ih]
    rfl

/-- A part is cut out of a text at the sizes of what stands before and behind it. -/
theorem slice?_append (s t u : Text) :
    slice? (s ++ t ++ u) (size s) (size s + size t) = some t := by
  simp [slice?]

/-! ## The machine -/

/-- A piece of some bytes. -/
inductive Piece where
  /-- A character in its encoding. -/
  | char (c : Char)
  /-- Bytes that are no character. -/
  | fault (bytes : Bytes)
  deriving DecidableEq, Repr

/-- Where the machine stands between two bytes. -/
inductive Progress where
  /-- Between characters. -/
  | between
  /-- Inside a character, after the bytes `taken`: the next byte must lie between `low` and `high`,
  `more` further continuation bytes follow it, and `bits` is the value read so far. -/
  | inside (taken : Bytes) (more low high bits : Nat)
  deriving DecidableEq, Repr

/-- The pieces completed by a byte that is read between characters, and where the machine stands
after it. -/
def start (b : UInt8) : List Piece × Progress :=
  let n := b.toNat
  if n < 0x80 then ([.char (.ofNat n)], .between)
  else if n < 0xC2 then ([.fault [b]], .between)
  else if n < 0xE0 then ([], .inside [b] 0 0x80 0xBF (n - 0xC0))
  else if n = 0xE0 then ([], .inside [b] 1 0xA0 0xBF 0)
  else if n = 0xED then ([], .inside [b] 1 0x80 0x9F 0xD)
  else if n < 0xF0 then ([], .inside [b] 1 0x80 0xBF (n - 0xE0))
  else if n = 0xF0 then ([], .inside [b] 2 0x90 0xBF 0)
  else if n < 0xF4 then ([], .inside [b] 2 0x80 0xBF (n - 0xF0))
  else if n = 0xF4 then ([], .inside [b] 2 0x80 0x8F 4)
  else ([.fault [b]], .between)

/-- One byte. A byte that the character does not admit ends it as a fault and is then read as if it
stood between characters. -/
def step : Progress → UInt8 → List Piece × Progress
  | .between, b => start b
  | .inside taken more low high bits, b =>
    let n := b.toNat
    if low ≤ n ∧ n ≤ high then
      let value := bits * 64 + (n - 0x80)
      match more with
      | 0 => ([.char (.ofNat value)], .between)
      | more + 1 => ([], .inside (taken ++ [b]) more 0x80 0xBF value)
    else
      let (pieces, next) := start b
      (.fault taken :: pieces, next)

/-- The pieces from a given state to the end of the bytes, where a character that still owes bytes
is a fault. -/
def scanFrom : Progress → Bytes → List Piece
  | .between, [] => []
  | .inside taken .., [] => [.fault taken]
  | p, b :: bs => (step p b).1 ++ scanFrom (step p b).2 bs

/-- The pieces of a byte string, in order. -/
def scan (bs : Bytes) : List Piece := scanFrom .between bs

/-! ## The two decoders -/

/-- What stands in decoded text for a fault. -/
def replacement : Char := '\uFFFD'

/-- The character of a piece, if it is one. -/
def Piece.char? : Piece → Option Char
  | .char c => some c
  | .fault _ => none

/-- Decodes any bytes, with one U+FFFD for each fault. -/
def decodeLossy (bs : Bytes) : Text := (scan bs).map fun p ↦ p.char?.getD replacement

/-- Decodes bytes that are UTF-8, and no others. -/
def decode? (bs : Bytes) : Option Text := (scan bs).mapM Piece.char?

/-! ## Laws of the machine -/

@[simp] theorem scanFrom_cons (p : Progress) (b : UInt8) (bs : Bytes) :
    scanFrom p (b :: bs) = (step p b).1 ++ scanFrom (step p b).2 bs := by
  cases p <;> rfl

@[simp] theorem scan_nil : scan [] = [] := rfl

theorem start_of_ascii {b : UInt8} (h : b.toNat < 0x80) :
    start b = ([.char (.ofNat b.toNat)], .between) := by
  simp [start, h]

/-- After an ASCII byte the machine stands between characters, wherever it stood before. -/
theorem step_of_ascii (taken : Bytes) (more : Nat) {low : Nat} (high bits : Nat) {b : UInt8}
    (hlow : 0x80 ≤ low) (h : b.toNat < 0x80) :
    step (.inside taken more low high bits) b
      = ([.fault taken, .char (.ofNat b.toNat)], .between) := by
  have : ¬ (low ≤ b.toNat ∧ b.toNat ≤ high) := by omega
  simp [step, this, start_of_ascii h]

/-- A state that the machine reaches: the next byte of a character is never an ASCII byte. -/
def Progress.Reached : Progress → Prop
  | .between => True
  | .inside _ _ low _ _ => 0x80 ≤ low

theorem reached_start (b : UInt8) : (start b).2.Reached := by
  simp only [start]
  repeat (split; · simp [Progress.Reached])
  all_goals simp [Progress.Reached]

theorem reached_step (p : Progress) (b : UInt8) : (step p b).2.Reached := by
  cases p with
  | between => exact reached_start b
  | inside taken more low high bits =>
    simp only [step]
    split
    · cases more <;> simp [Progress.Reached]
    · exact reached_start b

/-- **An ASCII byte separates.** It is met as a character; what stands before it is met as if the
bytes ended there, and what follows as if it stood alone. -/
theorem scan_append_of_ascii (bs : Bytes) {b : UInt8} (h : b.toNat < 0x80) (rest : Bytes) :
    scan (bs ++ b :: rest) = scan bs ++ .char (.ofNat b.toNat) :: scan rest := by
  suffices key : ∀ p : Progress, p.Reached →
      scanFrom p (bs ++ b :: rest) = scanFrom p bs ++ .char (.ofNat b.toNat) :: scan rest from
    key .between trivial
  -- On the bytes in front, from every state that the machine may be in when it meets them.
  induction bs with
  | nil =>
    intro p hp
    cases p with
    | between => simp [step, start_of_ascii h, scan, scanFrom]
    | inside taken more low high bits =>
      simp [step_of_ascii taken more high bits hp h, scan, scanFrom]
  | cons c cs ih =>
    intro p _
    simp [ih _ (reached_step p c)]

/-! ## Encoded text is met as it was -/

private theorem toNat_valid (c : Char) :
    c.toNat < 0xD800 ∨ (0xDFFF < c.toNat ∧ c.toNat < 0x110000) := c.valid

private theorem toNat_byte {n : Nat} (h : n < 256) : (UInt8.ofNat n).toNat = n := by
  rw [UInt8.toNat_ofNat', Nat.mod_eq_of_lt h]

private theorem step_last {taken : Bytes} {low high bits n : Nat} (hn : n < 256) (hlow : low ≤ n)
    (hhigh : n ≤ high) :
    step (.inside taken 0 low high bits) (.ofNat n)
      = ([.char (.ofNat (bits * 64 + (n - 0x80)))], .between) := by
  simp [step, toNat_byte hn, hlow, hhigh]

private theorem step_more {taken : Bytes} {more low high bits n : Nat} (hn : n < 256)
    (hlow : low ≤ n) (hhigh : n ≤ high) :
    step (.inside taken (more + 1) low high bits) (.ofNat n)
      = ([], .inside (taken ++ [.ofNat n]) more 0x80 0xBF (bits * 64 + (n - 0x80))) := by
  simp [step, toNat_byte hn, hlow, hhigh]

private theorem start_two {n : Nat} (h₁ : 0xC2 ≤ n) (h₂ : n < 0xE0) :
    start (.ofNat n) = ([], .inside [.ofNat n] 0 0x80 0xBF (n - 0xC0)) := by
  simp [start, toNat_byte (show n < 256 by omega), show ¬ n < 128 by omega,
    show ¬ n < 194 by omega, show n < 224 by omega]

private theorem start_three {n : Nat} (h₁ : 0xE0 ≤ n) (h₂ : n < 0xF0) :
    ∃ low high, start (.ofNat n) = ([], .inside [.ofNat n] 1 low high (n - 0xE0)) ∧
      low = (if n = 0xE0 then 0xA0 else 0x80) ∧ high = (if n = 0xED then 0x9F else 0xBF) := by
  by_cases hE0 : n = 0xE0
  · subst hE0; exact ⟨_, _, rfl, rfl, rfl⟩
  by_cases hED : n = 0xED
  · subst hED; exact ⟨_, _, rfl, rfl, rfl⟩
  refine ⟨0x80, 0xBF, ?_, by simp [hE0], by simp [hED]⟩
  simp [start, toNat_byte (show n < 256 by omega), show ¬ n < 128 by omega,
    show ¬ n < 194 by omega, show ¬ n < 224 by omega, hE0, hED, h₂]

private theorem start_four {n : Nat} (h₁ : 0xF0 ≤ n) (h₂ : n < 0xF5) :
    ∃ low high, start (.ofNat n) = ([], .inside [.ofNat n] 2 low high (n - 0xF0)) ∧
      low = (if n = 0xF0 then 0x90 else 0x80) ∧ high = (if n = 0xF4 then 0x8F else 0xBF) := by
  by_cases hF0 : n = 0xF0
  · subst hF0; exact ⟨_, _, rfl, rfl, rfl⟩
  by_cases hF4 : n = 0xF4
  · subst hF4; exact ⟨_, _, rfl, rfl, rfl⟩
  refine ⟨0x80, 0xBF, ?_, by simp [hF0], by simp [hF4]⟩
  simp [start, toNat_byte (show n < 256 by omega), show ¬ n < 128 by omega,
    show ¬ n < 194 by omega, show ¬ n < 224 by omega, show ¬ n = 224 by omega,
    show ¬ n = 237 by omega, show ¬ n < 240 by omega, hF0, show n < 244 by omega]

/-- **Encoded text is met character by character,** whatever follows it. -/
theorem scan_encodeChar_append (c : Char) (bs : Bytes) :
    scan (encodeChar c ++ bs) = .char c :: scan bs := by
  have hc := toNat_valid c
  have hof : Char.ofNat c.toNat = c := Char.ofNat_toNat c
  simp only [encodeChar, scan]
  generalize c.toNat = n at hc hof ⊢
  split
  · rw [List.cons_append, List.nil_append, scanFrom_cons, step, start_of_ascii]
    · simp [toNat_byte (show n < 256 by omega), hof]
    · rw [toNat_byte (by omega)]; assumption
  split
  · simp only [List.cons_append, List.nil_append, scanFrom_cons]
    rw [step, start_two (by omega) (by omega), step_last (by omega) (by omega) (by omega),
      show (0xC0 + n / 64 - 0xC0) * 64 + (0x80 + n % 64 - 0x80) = n by omega, hof]
    rfl
  split
  · obtain ⟨low, high, hstart, hlow, hhigh⟩ :=
      start_three (n := 0xE0 + n / 4096) (by omega) (by omega)
    simp only [List.cons_append, List.nil_append, scanFrom_cons]
    rw [step, hstart, step_more (by omega) (by subst hlow; split <;> omega)
      (by subst hhigh; split <;> omega), step_last (by omega) (by omega) (by omega),
      show ((0xE0 + n / 4096 - 0xE0) * 64 + (0x80 + n / 64 % 64 - 0x80)) * 64
        + (0x80 + n % 64 - 0x80) = n by omega, hof]
    rfl
  · obtain ⟨low, high, hstart, hlow, hhigh⟩ :=
      start_four (n := 0xF0 + n / 262144) (by omega) (by omega)
    simp only [List.cons_append, List.nil_append, scanFrom_cons]
    rw [step, hstart, step_more (by omega) (by subst hlow; split <;> omega)
      (by subst hhigh; split <;> omega), step_more (by omega) (by omega) (by omega),
      step_last (by omega) (by omega) (by omega),
      show (((0xF0 + n / 262144 - 0xF0) * 64 + (0x80 + n / 4096 % 64 - 0x80)) * 64
        + (0x80 + n / 64 % 64 - 0x80)) * 64 + (0x80 + n % 64 - 0x80) = n by omega, hof]
    rfl

theorem scan_encode_append (t : Text) (bs : Bytes) :
    scan (encode t ++ bs) = t.map .char ++ scan bs := by
  induction t with
  | nil => rfl
  | cons c t ih => simp [scan_encodeChar_append, ih]

@[simp] theorem scan_encode (t : Text) : scan (encode t) = t.map .char := by
  simpa using scan_encode_append t []

@[simp] theorem decodeLossy_encode (t : Text) : decodeLossy (encode t) = t := by
  simp [decodeLossy, Function.comp_def, Piece.char?]

@[simp] theorem decode?_encode (t : Text) : decode? (encode t) = some t := by
  rw [decode?, scan_encode]
  induction t with
  | nil => rfl
  | cons c t ih => simp [List.mapM_cons, Piece.char?, ih]

end LineShell.Utf8
