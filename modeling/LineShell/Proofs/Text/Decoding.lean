import LineShell.Text.Utf8

/-!
# Nothing is lost in a scan

A scan cuts bytes into pieces, and the pieces put together are the bytes again, characters in their
encoding and faults as they are (`flatMap_bytes_scan`). So bytes that have no fault are the encoding
of the text that they are decoded to (`encode_of_decode?`), and there is only one way to write a
text in UTF-8.

## What a character still owes

Between two bytes of a character the machine has taken some of them and knows in which ranges the
others have to lie. Whatever they are, as long as they are in these ranges, all of them together are
the encoding of the character that is then read (`Completes`). Each first byte makes such a promise,
and each byte that follows keeps it.
-/

namespace LineShell.Utf8

/-! ## Characters by their numbers -/

theorem toNat_ofNat_of_isValidChar {v : Nat} (h : v.isValidChar) : (Char.ofNat v).toNat = v := by
  rw [Char.ofNat, dif_pos h]
  rfl

theorem encodeChar_one {v : Nat} (h : v < 0x80) : encodeChar (.ofNat v) = [.ofNat v] := by
  have hv : (Char.ofNat v).toNat = v := toNat_ofNat_of_isValidChar (.inl (by omega))
  simp only [encodeChar, hv]
  rw [if_pos h]

theorem encodeChar_two {v : Nat} (hlow : 0x80 ≤ v) (hhigh : v < 0x800) :
    encodeChar (.ofNat v) = [.ofNat (0xC0 + v / 64), .ofNat (0x80 + v % 64)] := by
  have hv : (Char.ofNat v).toNat = v := toNat_ofNat_of_isValidChar (.inl (by omega))
  simp only [encodeChar, hv]
  rw [if_neg (by omega), if_pos hhigh]

theorem encodeChar_three {v : Nat} (hvalid : v.isValidChar) (hlow : 0x800 ≤ v)
    (hhigh : v < 0x10000) :
    encodeChar (.ofNat v)
      = [.ofNat (0xE0 + v / 4096), .ofNat (0x80 + v / 64 % 64), .ofNat (0x80 + v % 64)] := by
  simp only [encodeChar, toNat_ofNat_of_isValidChar hvalid]
  rw [if_neg (by omega), if_neg (by omega), if_pos hhigh]

theorem encodeChar_four {v : Nat} (hvalid : v.isValidChar) (hlow : 0x10000 ≤ v) :
    encodeChar (.ofNat v)
      = [.ofNat (0xF0 + v / 262144), .ofNat (0x80 + v / 4096 % 64), .ofNat (0x80 + v / 64 % 64),
          .ofNat (0x80 + v % 64)] := by
  simp only [encodeChar, toNat_ofNat_of_isValidChar hvalid]
  rw [if_neg (by omega), if_neg (by omega), if_neg (by omega)]

theorem toNat_ofNat_of_lt {v : Nat} (h : v < 256) : (UInt8.ofNat v).toNat = v := by
  rw [UInt8.toNat_ofNat', Nat.mod_eq_of_lt h]

/-- A character that is not ASCII has no ASCII byte. -/
theorem le_toNat_of_mem_encodeChar {c : Char} (hc : 0x80 ≤ c.toNat) {b : UInt8}
    (h : b ∈ encodeChar c) : 0x80 ≤ b.toNat := by
  have hlt : c.toNat < 0x110000 := by
    have hvalid : c.toNat.isValidChar := c.valid
    rw [Nat.isValidChar] at hvalid
    omega
  have hbyte {v : Nat} (hlow : 0x80 ≤ v) (hhigh : v < 256) : 0x80 ≤ (UInt8.ofNat v).toNat := by
    rwa [toNat_ofNat_of_lt hhigh]
  simp only [encodeChar] at h
  rw [if_neg (by omega)] at h
  repeat' split at h
  all_goals
    simp only [List.mem_cons, List.not_mem_nil, or_false] at h
  · rcases h with rfl | rfl <;> exact hbyte (by omega) (by omega)
  · rcases h with rfl | rfl | rfl <;> exact hbyte (by omega) (by omega)
  · rcases h with rfl | rfl | rfl | rfl <;> exact hbyte (by omega) (by omega)

/-- An ASCII byte in the encoding of a text is a character of it. -/
theorem mem_of_mem_encode {c : Char} (hc : c.toNat < 0x80) {t : Text}
    (h : UInt8.ofNat c.toNat ∈ encode t) : c ∈ t := by
  obtain ⟨d, hd, hmem⟩ := List.mem_flatMap.1 h
  have hbyte : (UInt8.ofNat c.toNat).toNat = c.toNat := toNat_ofNat_of_lt (by omega)
  by_cases hascii : d.toNat < 0x80
  · have hdbyte : (UInt8.ofNat d.toNat).toNat = d.toNat := toNat_ofNat_of_lt (by omega)
    have hencode := encodeChar_one hascii
    rw [Char.ofNat_toNat] at hencode
    rw [hencode, List.mem_singleton] at hmem
    have hcd : c = d := by rw [← Char.ofNat_toNat c, ← hbyte, hmem, hdbyte, Char.ofNat_toNat]
    rwa [hcd]
  · have hle := le_toNat_of_mem_encodeChar (by omega) hmem
    omega

theorem not_mem_encode {c : Char} {t : Text} (h : c ∉ t) (hc : c.toNat < 0x80) :
    UInt8.ofNat c.toNat ∉ encode t :=
  fun hmem ↦ h (mem_of_mem_encode hc hmem)

/-! ## Inside a character -/

/-- Whether all bytes that a character may go on with complete the encoding of the character that is
read from them. -/
def Completes : Nat → Bytes → Nat → Nat → Nat → Prop
  | 0, taken, low, high, bits => ∀ n, low ≤ n → n ≤ high →
    encodeChar (.ofNat (bits * 64 + (n - 0x80))) = taken ++ [.ofNat n]
  | more + 1, taken, low, high, bits => ∀ n, low ≤ n → n ≤ high →
    Completes more (taken ++ [.ofNat n]) 0x80 0xBF (bits * 64 + (n - 0x80))

theorem completes_two {n : Nat} (hlow : 0xC2 ≤ n) (hhigh : n < 0xE0) :
    Completes 0 [.ofNat n] 0x80 0xBF (n - 0xC0) := by
  intro k hk hk'
  generalize hv : (n - 0xC0) * 64 + (k - 0x80) = v
  have hfirst : 0xC0 + v / 64 = n := by omega
  have hsecond : 0x80 + v % 64 = k := by omega
  rw [encodeChar_two (by omega) (by omega), hfirst, hsecond]
  rfl

/-- The second of three bytes is limited behind two first bytes: `E0`, so that the character does
not fit into two, and `ED`, so that it is no surrogate. -/
theorem completes_three {n low high : Nat} (hn : 0xE0 ≤ n) (hn' : n < 0xF0) (hlow : 0x80 ≤ low)
    (hhigh : high ≤ 0xBF) (hshort : n = 0xE0 → 0xA0 ≤ low) (hsurrogate : n = 0xED → high ≤ 0x9F) :
    Completes 1 [.ofNat n] low high (n - 0xE0) := by
  intro k hk hk' j hj hj'
  generalize hv : ((n - 0xE0) * 64 + (k - 0x80)) * 64 + (j - 0x80) = v
  have hvalid : v.isValidChar := by
    rw [Nat.isValidChar]
    omega
  have hfirst : 0xE0 + v / 4096 = n := by omega
  have hsecond : 0x80 + v / 64 % 64 = k := by omega
  have hthird : 0x80 + v % 64 = j := by omega
  rw [encodeChar_three hvalid (by omega) (by omega), hfirst, hsecond, hthird]
  rfl

/-- The second of four bytes is limited behind two first bytes: `F0`, so that the character does not
fit into three, and `F4`, so that there is such a character. -/
theorem completes_four {n low high : Nat} (hn : 0xF0 ≤ n) (hn' : n ≤ 0xF4) (hlow : 0x80 ≤ low)
    (hhigh : high ≤ 0xBF) (hshort : n = 0xF0 → 0x90 ≤ low) (hlast : n = 0xF4 → high ≤ 0x8F) :
    Completes 2 [.ofNat n] low high (n - 0xF0) := by
  intro k hk hk' j hj hj' i hi hi'
  generalize hv : (((n - 0xF0) * 64 + (k - 0x80)) * 64 + (j - 0x80)) * 64 + (i - 0x80) = v
  have hvalid : v.isValidChar := by
    rw [Nat.isValidChar]
    omega
  have hfirst : 0xF0 + v / 262144 = n := by omega
  have hsecond : 0x80 + v / 4096 % 64 = k := by omega
  have hthird : 0x80 + v / 64 % 64 = j := by omega
  have hfourth : 0x80 + v % 64 = i := by omega
  rw [encodeChar_four hvalid (by omega), hfirst, hsecond, hthird, hfourth]
  rfl

/-! ## The machine -/

/-- The bytes of a piece. -/
def Piece.bytes : Piece → Bytes
  | .char c => encodeChar c
  | .fault bytes => bytes

/-- The bytes that the machine has taken of a character. -/
def Progress.taken : Progress → Bytes
  | .between => []
  | .inside taken .. => taken

/-- Whether the machine stands between characters, or inside one that it can complete. -/
def Progress.IsSound : Progress → Prop
  | .between => True
  | .inside taken more low high bits => Completes more taken low high bits

/-- Whether pieces and what the machine has taken afterwards are some bytes, and nothing is lost so
far. -/
def Accounts (bytes : Bytes) (r : List Piece × Progress) : Prop :=
  r.1.flatMap Piece.bytes ++ r.2.taken = bytes ∧ r.2.IsSound

theorem accounts_start (b : UInt8) : Accounts [b] (start b) := by
  have hb : UInt8.ofNat b.toNat = b := UInt8.ofNat_toNat
  have hlt : b.toNat < 256 := b.toNat_lt
  rw [start]
  generalize b.toNat = n at hb hlt
  subst hb
  repeat' split
  · refine ⟨?_, trivial⟩
    exact (List.append_nil _).trans ((List.append_nil _).trans (encodeChar_one ‹_›))
  · exact ⟨rfl, trivial⟩
  · exact ⟨rfl, completes_two (by omega) (by omega)⟩
  · next h =>
    subst h
    exact ⟨rfl, completes_three (by omega) (by omega) (by omega) (by omega) (by omega) (by omega)⟩
  · next h =>
    subst h
    exact ⟨rfl, completes_three (by omega) (by omega) (by omega) (by omega) (by omega) (by omega)⟩
  · exact ⟨rfl, completes_three (by omega) (by omega) (by omega) (by omega) (by omega) (by omega)⟩
  · next h =>
    subst h
    exact ⟨rfl, completes_four (by omega) (by omega) (by omega) (by omega) (by omega) (by omega)⟩
  · exact ⟨rfl, completes_four (by omega) (by omega) (by omega) (by omega) (by omega) (by omega)⟩
  · next h =>
    subst h
    exact ⟨rfl, completes_four (by omega) (by omega) (by omega) (by omega) (by omega) (by omega)⟩
  · exact ⟨rfl, trivial⟩

theorem accounts_step {p : Progress} (hp : p.IsSound) (b : UInt8) :
    Accounts (p.taken ++ [b]) (step p b) := by
  cases p with
  | between => exact accounts_start b
  | inside taken more low high bits =>
    have hb : UInt8.ofNat b.toNat = b := UInt8.ofNat_toNat
    simp only [step]
    split
    · next h =>
      cases more with
      | zero =>
        have hchar := hp b.toNat h.1 h.2
        rw [hb] at hchar
        refine ⟨?_, trivial⟩
        exact (List.append_nil _).trans ((List.append_nil _).trans hchar)
      | succ more =>
        have hmore := hp b.toNat h.1 h.2
        rw [hb] at hmore
        exact ⟨rfl, hmore⟩
    · obtain ⟨hbytes, hsound⟩ := accounts_start b
      refine ⟨?_, hsound⟩
      rw [List.flatMap_cons, List.append_assoc, hbytes]
      rfl

theorem flatMap_bytes_scanFrom {p : Progress} (hp : p.IsSound) (bs : Bytes) :
    (scanFrom p bs).flatMap Piece.bytes = p.taken ++ bs := by
  induction bs generalizing p with
  | nil =>
    cases p with
    | between => rfl
    | inside taken more low high bits => rfl
  | cons b bs ih =>
    obtain ⟨hbytes, hsound⟩ := accounts_step hp b
    rw [scanFrom_cons, List.flatMap_append, ih hsound, ← List.append_assoc, hbytes,
      List.append_assoc]
    rfl

/-- **The pieces of some bytes, put together, are those bytes.** -/
theorem flatMap_bytes_scan (bs : Bytes) : (scan bs).flatMap Piece.bytes = bs :=
  flatMap_bytes_scanFrom (p := .between) trivial bs

/-! ## Bytes that are text -/

theorem eq_map_of_mapM_char? {pieces : List Piece} {t : Text}
    (h : pieces.mapM Piece.char? = some t) : pieces = t.map .char := by
  induction pieces generalizing t with
  | nil =>
    obtain rfl : [] = t := Option.some.inj h
    rfl
  | cons piece pieces ih =>
    rw [List.mapM_cons] at h
    obtain ⟨c, hc, h⟩ := Option.bind_eq_some_iff.1 h
    obtain ⟨t', ht, h⟩ := Option.bind_eq_some_iff.1 h
    obtain rfl : c :: t' = t := Option.some.inj h
    rw [ih ht, List.map_cons]
    cases piece with
    | char d =>
      obtain rfl : d = c := Option.some.inj hc
      rfl
    | fault bytes => exact absurd hc (by simp [Piece.char?])

/-- Bytes that are UTF-8 are the encoding of their text. -/
theorem encode_of_decode? {bs : Bytes} {t : Text} (h : decode? bs = some t) : encode t = bs := by
  have hscan : scan bs = t.map .char := eq_map_of_mapM_char? h
  have hbytes := flatMap_bytes_scan bs
  rw [hscan, List.flatMap_map] at hbytes
  exact hbytes

/-- Bytes are decoded to a text exactly if they are its encoding. -/
theorem decode?_eq_some_iff {bs : Bytes} {t : Text} : decode? bs = some t ↔ encode t = bs := by
  refine ⟨encode_of_decode?, ?_⟩
  rintro rfl
  exact decode?_encode t

end LineShell.Utf8
