import LineShell.Proofs.Text.Decoding

/-!
# What is not text in some bytes

Where no character stands in some bytes, a part of them is *invalid*: as many bytes as can begin a
character together, or one byte if none can (`IsInvalidPart`). Decoding with replacement reads the
bytes from the left, takes characters as they are, and writes one U+FFFD for each invalid part
(`DecodesTo`). This says what the text is without saying how it is found. There is one such text for
any bytes, and the machine finds it (`decodesTo_iff`).

## Why the machine stops where it does

Inside a character the machine goes on as long as some character begins like that. That it does not
stop too late is the promise of the bytes it has taken, which any next bytes in their ranges
complete. That it does not stop too early needs no look at ranges. The machine reads every encoded
character without a fault, so a fault in front of the next byte shows that no character goes on with
that byte.
-/

namespace LineShell.Utf8

/-! ## Invalid parts -/

/-- Whether some bytes are the beginning of an encoded character. -/
def BeginsChar (bytes : Bytes) : Prop := ∃ c, bytes <+: encodeChar c

/-- Whether a part of some bytes is invalid, with other bytes behind it. -/
structure IsInvalidPart (part rest : Bytes) : Prop where
  /-- It is not empty. -/
  ne_nil : part ≠ []
  /-- No character stands here. -/
  not_char : ∀ c, ¬ encodeChar c <+: part ++ rest
  /-- It begins a character, or is one byte. -/
  begins : BeginsChar part ∨ ∃ b, part = [b]
  /-- With more of the bytes behind it, it does not begin a character. -/
  maximal : ∀ more, more ≠ [] → more <+: rest → ¬ BeginsChar (part ++ more)

/-- Whether some bytes are decoded to a text: character by character, and with one U+FFFD for each
invalid part. -/
inductive DecodesTo : Bytes → Text → Prop where
  /-- No bytes are no text. -/
  | nil : DecodesTo [] []
  /-- A character is decoded to itself. -/
  | char (c : Char) {rest : Bytes} {t : Text} (h : DecodesTo rest t) :
    DecodesTo (encodeChar c ++ rest) (c :: t)
  /-- An invalid part is replaced. -/
  | invalid {part rest : Bytes} {t : Text} (hpart : IsInvalidPart part rest)
    (h : DecodesTo rest t) : DecodesTo (part ++ rest) (replacement :: t)

theorem BeginsChar.of_append {bytes more : Bytes} (h : BeginsChar (bytes ++ more)) :
    BeginsChar bytes := by
  obtain ⟨c, hc⟩ := h
  exact ⟨c, (List.prefix_append bytes more).trans hc⟩

/-- What is invalid at the beginning of some bytes cannot be longer than what else is. -/
theorem IsInvalidPart.eq_of_prefix {part rest part' rest' : Bytes} (h : IsInvalidPart part rest)
    (h' : IsInvalidPart part' rest') (heq : part ++ rest = part' ++ rest')
    (hinit : part <+: part') : part = part' := by
  obtain ⟨more, rfl⟩ := hinit
  rw [List.append_assoc, List.append_cancel_left_eq] at heq
  by_cases hmore : more = []
  · rw [hmore, List.append_nil]
  · have hrest : more <+: rest := ⟨rest', heq.symm⟩
    rcases h'.begins with hbegins | ⟨b, hb⟩
    · exact absurd hbegins (h.maximal more hmore hrest)
    · -- A single byte has no proper beginning that is not empty.
      have hlen := congrArg List.length hb
      have hpart := List.length_pos_iff.2 h.ne_nil
      have hpos := List.length_pos_iff.2 hmore
      rw [List.length_append, List.length_singleton] at hlen
      omega

theorem IsInvalidPart.unique {part rest part' rest' : Bytes} (h : IsInvalidPart part rest)
    (h' : IsInvalidPart part' rest') (heq : part ++ rest = part' ++ rest') :
    part = part' ∧ rest = rest' := by
  have hpart : part = part' := by
    have hinit : part' <+: part ++ rest := ⟨rest', heq.symm⟩
    rcases List.prefix_or_prefix_of_prefix (List.prefix_append part rest) hinit with hle | hle
    · exact h.eq_of_prefix h' heq hle
    · exact (h'.eq_of_prefix h heq.symm hle).symm
  subst hpart
  exact ⟨rfl, List.append_cancel_left heq⟩

/-! ## The first piece -/

/-- A byte between characters is a character, begins none, or begins one and has others to follow
it. -/
theorem start_cases (b : UInt8) :
    (∃ c, start b = ([.char c], .between)) ∨
      start b = ([.fault [b]], .between) ∨
      ∃ more low high bits, start b = ([], .inside [b] more low high bits) ∧ low ≤ high ∧
        Completes more [b] low high bits := by
  have hinside {more low high bits : Nat} (hle : low ≤ high)
      (h : start b = ([], .inside [b] more low high bits)) :
      ∃ more low high bits, start b = ([], .inside [b] more low high bits) ∧ low ≤ high ∧
        Completes more [b] low high bits := by
    obtain ⟨-, hsound⟩ := accounts_start b
    rw [h] at hsound
    exact ⟨more, low, high, bits, h, hle, hsound⟩
  generalize hr : start b = r at hinside
  simp only [start] at hr
  repeat' split at hr
  all_goals subst hr
  · exact .inl ⟨_, rfl⟩
  · exact .inr (.inl rfl)
  -- In between stand the seven kinds of first bytes.
  iterate 7
    · exact .inr (.inr (hinside (by omega) rfl))
  · exact .inr (.inl rfl)

theorem beginsChar_of_completes {more low high bits : Nat} {taken : Bytes} (hle : low ≤ high)
    (h : Completes more taken low high bits) : BeginsChar taken := by
  induction more generalizing taken low high bits with
  | zero =>
    have hchar := h low (Nat.le_refl low) hle
    exact ⟨_, ⟨_, hchar.symm⟩⟩
  | succ more ih =>
    have hnext := h low (Nat.le_refl low) hle
    exact (ih (by decide) hnext).of_append

/-- A fault of the machine is an invalid part if the machine finds it in front of whatever begins
like the bytes behind it. -/
theorem isInvalidPart_of_scan {part rest : Bytes} (hne : part ≠ [])
    (hbegins : BeginsChar part ∨ ∃ b, part = [b])
    (hscan : ∀ bs, bs.head? = rest.head? → scan (part ++ bs) = .fault part :: scan bs) :
    IsInvalidPart part rest where
  ne_nil := hne
  not_char := by
    rintro c ⟨behind, hbehind⟩
    have hchar := scan_encodeChar_append c behind
    rw [hbehind, hscan rest rfl] at hchar
    exact absurd hchar (by simp)
  begins := hbegins
  maximal := by
    rintro more hmore ⟨tail, rfl⟩ ⟨c, behind, hbehind⟩
    obtain ⟨b, more, rfl⟩ := List.exists_cons_of_ne_nil hmore
    have hchar := scan_encodeChar_append c []
    rw [List.append_nil, ← hbehind, List.append_assoc, hscan (b :: more ++ behind) rfl] at hchar
    exact absurd hchar (by simp)

/-- Whether a piece may stand before some bytes: if it is a fault, it is an invalid part. -/
def Piece.StandsBefore (rest : Bytes) : Piece → Prop
  | .char _ => True
  | .fault part => IsInvalidPart part rest

/-- The induction is on the bytes that the machine has before it. What it carries is that the
machine came to where it stands by the bytes that it has taken, so that they are read again whatever
follows them. -/
theorem exists_piece_of_inside {taken : Bytes} {more low high bits : Nat} (hne : taken ≠ [])
    (hle : low ≤ high) (h : Completes more taken low high bits)
    (hscan : ∀ bs, scan (taken ++ bs) = scanFrom (.inside taken more low high bits) bs)
    (bs : Bytes) :
    ∃ piece rest, scan (taken ++ bs) = piece :: scan rest ∧ piece.StandsBefore rest := by
  induction bs generalizing taken more low high bits with
  | nil =>
    -- The bytes end inside the character, and nothing can be added to the fault.
    refine ⟨.fault taken, [], hscan [], ?_⟩
    apply isInvalidPart_of_scan hne (.inl (beginsChar_of_completes hle h))
    intro bs hhead
    rw [List.head?_nil, List.head?_eq_none_iff] at hhead
    rw [hhead, hscan]
    rfl
  | cons b bs ih =>
    by_cases hb : low ≤ b.toNat ∧ b.toNat ≤ high
    · rcases more with _ | more
      · refine ⟨.char (.ofNat (bits * 64 + (b.toNat - 0x80))), bs, ?_, trivial⟩
        rw [hscan, scanFrom_cons, step]
        simp only [hb]
        rfl
      · have hstep (cs : Bytes) : scan (taken ++ [b] ++ cs) = scanFrom (.inside (taken ++ [b]) more
            0x80 0xBF (bits * 64 + (b.toNat - 0x80))) cs := by
          rw [List.append_assoc, List.singleton_append, hscan, scanFrom_cons, step]
          simp only [hb]
          rfl
        have hcompletes := h b.toNat hb.1 hb.2
        rw [UInt8.ofNat_toNat] at hcompletes
        have hrest := ih (List.append_ne_nil_of_left_ne_nil hne _) (by decide) hcompletes hstep
        rwa [List.append_assoc, List.singleton_append] at hrest
    · -- The byte is read as the first of what follows, whatever stands behind it.
      have hfault (cs : Bytes) : scan (taken ++ b :: cs) = .fault taken :: scan (b :: cs) := by
        rw [hscan, scanFrom_cons, step, scan, scanFrom_cons]
        simp only [hb]
        rfl
      refine ⟨.fault taken, b :: bs, hfault bs, ?_⟩
      apply isInvalidPart_of_scan hne (.inl (beginsChar_of_completes hle h))
      intro cs hhead
      obtain ⟨tail, rfl⟩ := List.head?_eq_some_iff.1 hhead
      exact hfault tail

/-- The first piece of some bytes is a character or an invalid part, and the others are those of the
bytes behind it. -/
theorem exists_piece {bs : Bytes} (h : bs ≠ []) :
    ∃ piece rest, scan bs = piece :: scan rest ∧ piece.StandsBefore rest := by
  obtain ⟨b, bs, rfl⟩ := List.exists_cons_of_ne_nil h
  have hscan (cs : Bytes) : scan (b :: cs) = (start b).1 ++ scanFrom (start b).2 cs :=
    scanFrom_cons .between b cs
  rcases start_cases b with ⟨c, hstart⟩ | hstart | ⟨more, low, high, bits, hstart, hle, hb⟩
  · refine ⟨.char c, bs, ?_, trivial⟩
    rw [hscan, hstart]
    rfl
  · have hfault (cs : Bytes) : scan ([b] ++ cs) = .fault [b] :: scan cs := by
      rw [List.singleton_append, hscan, hstart]
      rfl
    refine ⟨.fault [b], bs, hfault bs, ?_⟩
    exact isInvalidPart_of_scan (List.cons_ne_nil _ _) (.inr ⟨b, rfl⟩) fun cs _ ↦ hfault cs
  · apply exists_piece_of_inside (List.cons_ne_nil b []) hle hb
    intro cs
    rw [List.singleton_append, hscan, hstart]
    rfl

theorem eq_append_of_scan {bs rest : Bytes} {piece : Piece} (h : scan bs = piece :: scan rest) :
    bs = piece.bytes ++ rest := by
  have hbytes := congrArg (List.flatMap Piece.bytes) h
  rwa [List.flatMap_cons, flatMap_bytes_scan, flatMap_bytes_scan] at hbytes

/-- The machine finds an invalid part as a fault. -/
theorem scan_append_of_isInvalidPart {part rest : Bytes} (h : IsInvalidPart part rest) :
    scan (part ++ rest) = .fault part :: scan rest := by
  obtain ⟨piece, rest', hscan, hpiece⟩ :=
    exists_piece (List.append_ne_nil_of_left_ne_nil h.ne_nil rest)
  have heq := eq_append_of_scan hscan
  rcases piece with c | part'
  · exact absurd ⟨rest', heq.symm⟩ (h.not_char c)
  · obtain ⟨hpart, hrest⟩ := h.unique hpiece heq
    rw [hscan, hpart, hrest]

/-! ## Decoding -/

theorem decodeLossy_of_scan {bs rest : Bytes} {piece : Piece} (h : scan bs = piece :: scan rest) :
    decodeLossy bs = piece.char?.getD replacement :: decodeLossy rest := by
  rw [decodeLossy, h]
  rfl

theorem decodesTo_decodeLossy (bs : Bytes) : DecodesTo bs (decodeLossy bs) := by
  induction hlen : bs.length using Nat.strongRecOn generalizing bs with
  | ind n ih =>
    by_cases hbs : bs = []
    · rw [hbs]
      exact .nil
    · obtain ⟨piece, rest, hscan, hpiece⟩ := exists_piece hbs
      have heq := eq_append_of_scan hscan
      have hlength := congrArg List.length heq
      rw [List.length_append] at hlength
      rw [decodeLossy_of_scan hscan, heq]
      rcases piece with c | part
      · have hpos : 0 < (Piece.char c).bytes.length := length_encodeChar_pos c
        exact .char c (ih rest.length (by omega) rest rfl)
      · have hpos : 0 < (Piece.fault part).bytes.length := List.length_pos_iff.2 hpiece.ne_nil
        exact .invalid hpiece (ih rest.length (by omega) rest rfl)

/-- **Decoding with replacement writes one U+FFFD for each invalid part**, and keeps every
character. -/
theorem decodesTo_iff {bs : Bytes} {t : Text} : DecodesTo bs t ↔ t = decodeLossy bs := by
  refine ⟨fun h ↦ ?_, ?_⟩
  · induction h with
    | nil => rfl
    | char c _ ih => rw [decodeLossy_of_scan (scan_encodeChar_append c _), ih]; rfl
    | invalid hpart _ ih =>
      rw [decodeLossy_of_scan (scan_append_of_isInvalidPart hpart), ih]
      rfl
  · rintro rfl
    exact decodesTo_decodeLossy bs

end LineShell.Utf8
