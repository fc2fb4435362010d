import AppSurvey.Text.Utf8

/-!
# Text survives UTF-8

Every text is read back from its bytes. The reader decides by the first byte of a character how many
bytes follow it and which values the second may have; `shape?_two`, `shape?_three` and `shape?_four`
say this for the three kinds of longer sequences. The reader is strict, so the converse holds too: the
bytes that are read as a text are the ones that the text is written with.
-/

namespace AppSurvey.Utf8

/-! ## One character -/

theorem shape?_one {b : UInt8} (hhigh : b.toNat < 0x80) : shape? b = some ⟨0, 0, 0, b.toNat⟩ := by
  unfold shape?
  rw [if_pos hhigh]

theorem shape?_two {b : UInt8} (hlow : 0xC2 ≤ b.toNat) (hhigh : b.toNat < 0xE0) :
    shape? b = some ⟨1, 0x80, 0xBF, b.toNat - 0xC0⟩ := by
  unfold shape?
  rw [if_neg (by omega), if_neg (by omega), if_pos hhigh]

/-- After `E0` no overlong form and after `ED` no surrogate may follow. -/
theorem shape?_three {b : UInt8} (hlow : 0xE0 ≤ b.toNat) (hhigh : b.toNat < 0xF0) :
    shape? b = some ⟨2, if b.toNat = 0xE0 then 0xA0 else 0x80,
      if b.toNat = 0xED then 0x9F else 0xBF, b.toNat - 0xE0⟩ := by
  unfold shape?
  rw [if_neg (by omega), if_neg (by omega), if_neg (by omega)]
  by_cases hfirst : b.toNat = 0xE0
  · simp [hfirst]
  · by_cases hsurrogate : b.toNat = 0xED
    · simp [hsurrogate]
    · simp [hfirst, hsurrogate, hhigh]

/-- After `F0` no overlong form and after `F4` nothing past the last character may follow. -/
theorem shape?_four {b : UInt8} (hlow : 0xF0 ≤ b.toNat) (hhigh : b.toNat ≤ 0xF4) :
    shape? b = some ⟨3, if b.toNat = 0xF0 then 0x90 else 0x80,
      if b.toNat = 0xF4 then 0x8F else 0xBF, b.toNat - 0xF0⟩ := by
  unfold shape?
  rw [if_neg (by omega), if_neg (by omega), if_neg (by omega), if_neg (by omega),
    if_neg (by omega), if_neg (by omega)]
  by_cases hfirst : b.toNat = 0xF0
  · simp [hfirst]
  · by_cases hlast : b.toNat = 0xF4
    · simp [hlast]
    · simp [hfirst, hlast, show b.toNat < 0xF4 by omega]

theorem continuations_cons {span bits low high follow : Nat} {b : UInt8} {rest : List UInt8}
    (hlow : low ≤ b.toNat) (hhigh : b.toNat ≤ high) :
    continuations span bits low high (follow + 1) (b :: rest) =
      continuations (span + 1) (bits * 64 + (b.toNat - 0x80)) 0x80 0xBF follow rest := by
  rw [continuations, if_pos ⟨hlow, hhigh⟩]

theorem toNat_scalar (c : Char) : c.toNat < 0xD800 ∨ 0xDFFF < c.toNat ∧ c.toNat < 0x110000 :=
  c.valid

theorem toNat_continuation (n : Nat) : (0x80 + n % 64).toUInt8.toNat = 0x80 + n % 64 :=
  UInt8.toNat_ofNat_of_lt' (show 0x80 + n % 64 < 256 by omega)

/-- The bytes are read as the character, whatever follows them. -/
def ReadAs (bytes : List UInt8) (c : Char) : Prop :=
  ∃ first follow, bytes = first :: follow ∧
    ∀ rest, readChar first (follow ++ rest) = .ok (c, follow.length)

theorem readAs_one {c : Char} (hhigh : c.toNat < 0x80) : ReadAs [c.toNat.toUInt8] c := by
  have hfirst : c.toNat.toUInt8.toNat = c.toNat :=
    UInt8.toNat_ofNat_of_lt' (show c.toNat < 256 by omega)
  refine ⟨_, _, rfl, fun rest => ?_⟩
  rw [readChar, shape?_one (by omega), hfirst]
  simp [continuations, Except.map]

theorem readAs_two {c : Char} (hlow : 0x80 ≤ c.toNat) (hhigh : c.toNat < 0x800) :
    ReadAs [(0xC0 + c.toNat / 64).toUInt8, (0x80 + c.toNat % 64).toUInt8] c := by
  have hfirst : (0xC0 + c.toNat / 64).toUInt8.toNat = 0xC0 + c.toNat / 64 :=
    UInt8.toNat_ofNat_of_lt' (show 0xC0 + c.toNat / 64 < 256 by omega)
  have hsecond := toNat_continuation c.toNat
  have hvalue : (0xC0 + c.toNat / 64 - 0xC0) * 64 + (0x80 + c.toNat % 64 - 0x80) = c.toNat := by
    omega
  refine ⟨_, _, rfl, fun rest => ?_⟩
  rw [readChar, shape?_two (by omega) (by omega)]
  simp only [List.cons_append, List.nil_append]
  rw [continuations_cons (by omega) (by omega), hfirst, hsecond, hvalue]
  simp [continuations, Except.map]

theorem readAs_three {c : Char} (hlow : 0x800 ≤ c.toNat) (hhigh : c.toNat < 0x10000) :
    ReadAs [(0xE0 + c.toNat / 4096).toUInt8, (0x80 + c.toNat / 64 % 64).toUInt8,
      (0x80 + c.toNat % 64).toUInt8] c := by
  have hscalar := toNat_scalar c
  have hfirst : (0xE0 + c.toNat / 4096).toUInt8.toNat = 0xE0 + c.toNat / 4096 :=
    UInt8.toNat_ofNat_of_lt' (show 0xE0 + c.toNat / 4096 < 256 by omega)
  have hsecond := toNat_continuation (c.toNat / 64)
  have hthird := toNat_continuation c.toNat
  have hvalue : ((0xE0 + c.toNat / 4096 - 0xE0) * 64 + (0x80 + c.toNat / 64 % 64 - 0x80)) * 64 +
      (0x80 + c.toNat % 64 - 0x80) = c.toNat := by
    omega
  refine ⟨_, _, rfl, fun rest => ?_⟩
  rw [readChar, shape?_three (by omega) (by omega)]
  simp only [List.cons_append, List.nil_append]
  -- The bounds on the second byte hold because the form is not overlong and `c` no surrogate.
  rw [continuations_cons (by split <;> omega) (by split <;> omega),
    continuations_cons (by omega) (by omega), hfirst, hsecond, hthird, hvalue]
  simp [continuations, Except.map]

theorem readAs_four {c : Char} (hlow : 0x10000 ≤ c.toNat) :
    ReadAs [(0xF0 + c.toNat / 262144).toUInt8, (0x80 + c.toNat / 4096 % 64).toUInt8,
      (0x80 + c.toNat / 64 % 64).toUInt8, (0x80 + c.toNat % 64).toUInt8] c := by
  have hscalar := toNat_scalar c
  have hfirst : (0xF0 + c.toNat / 262144).toUInt8.toNat = 0xF0 + c.toNat / 262144 :=
    UInt8.toNat_ofNat_of_lt' (show 0xF0 + c.toNat / 262144 < 256 by omega)
  have hsecond := toNat_continuation (c.toNat / 4096)
  have hthird := toNat_continuation (c.toNat / 64)
  have hfourth := toNat_continuation c.toNat
  have hvalue : (((0xF0 + c.toNat / 262144 - 0xF0) * 64 + (0x80 + c.toNat / 4096 % 64 - 0x80)) * 64 +
      (0x80 + c.toNat / 64 % 64 - 0x80)) * 64 + (0x80 + c.toNat % 64 - 0x80) = c.toNat := by
    omega
  refine ⟨_, _, rfl, fun rest => ?_⟩
  rw [readChar, shape?_four (by omega) (by omega)]
  simp only [List.cons_append, List.nil_append]
  rw [continuations_cons (by split <;> omega) (by split <;> omega),
    continuations_cons (by omega) (by omega), continuations_cons (by omega) (by omega), hfirst,
    hsecond, hthird, hfourth, hvalue]
  simp [continuations, Except.map]

/-- A character is read back from its bytes. -/
theorem readAs_encodeChar (c : Char) : ReadAs (encodeChar c) c := by
  unfold encodeChar
  dsimp only
  split
  next hone => exact readAs_one hone
  next hone =>
    split
    next htwo => exact readAs_two (by omega) htwo
    next htwo =>
      split
      next hthree => exact readAs_three (by omega) hthree
      next hthree => exact readAs_four (by omega)

/-! ## Whole texts -/

theorem decodeFrom_encodeChar_append (position : Nat) (c : Char) (rest : List UInt8) :
    decodeFrom position (encodeChar c ++ rest) =
      (decodeFrom (position + (encodeChar c).length) rest).map (c :: ·) := by
  obtain ⟨first, follow, hencode, hread⟩ := readAs_encodeChar c
  rw [hencode, List.cons_append, decodeFrom, hread]
  simp only [List.drop_left, List.length_cons, Nat.add_assoc]

/-- Characters in front are read first, and what follows is read behind their bytes. -/
theorem decodeFrom_flatMap_append (position : Nat) (front : List Char) (rest : List UInt8) :
    decodeFrom position (front.flatMap encodeChar ++ rest) =
      (decodeFrom (position + (front.flatMap encodeChar).length) rest).map (front ++ ·) := by
  induction front generalizing position with
  | nil =>
      simp only [List.flatMap_nil, List.nil_append, List.length_nil, Nat.add_zero]
      cases decodeFrom position rest <;> rfl
  | cons c front ih =>
      rw [List.flatMap_cons, List.append_assoc, decodeFrom_encodeChar_append, ih, List.length_append,
        Nat.add_assoc]
      generalize decodeFrom (position + ((encodeChar c).length + _)) rest = outcome
      cases outcome <;> rfl

theorem decodeFrom_flatMap_encodeChar (position : Nat) (text : List Char) :
    decodeFrom position (text.flatMap encodeChar) = .ok text := by
  have hread := decodeFrom_flatMap_append position text []
  rw [List.append_nil, decodeFrom] at hread
  rw [hread, Except.map, List.append_nil]

/-- Reading the bytes of a text gives the text. -/
theorem decode_encode (text : String) : decode (encode text) = .ok text := by
  rw [decode, encode, decodeFrom_flatMap_encodeChar]
  simp [Except.map]

theorem encode_inj {text other : String} : encode text = encode other ↔ text = other := by
  constructor
  · intro heq
    have hread := congrArg decode heq
    rw [decode_encode, decode_encode] at hread
    exact Except.ok.inj hread
  · rintro rfl
    rfl

/-! ## Back to the bytes -/

theorem continuations_succ_eq_ok {span bits low high follow n : Nat} {bytes : List UInt8}
    (hread : continuations span bits low high (follow + 1) bytes = .ok n) :
    ∃ b rest, bytes = b :: rest ∧ low ≤ b.toNat ∧ b.toNat ≤ high ∧
      continuations (span + 1) (bits * 64 + (b.toNat - 0x80)) 0x80 0xBF follow rest = .ok n := by
  cases bytes with
  | nil => cases hread
  | cons b rest =>
      rw [continuations] at hread
      split at hread
      next hbounds => exact ⟨b, rest, rfl, hbounds.1, hbounds.2, hread⟩
      next => cases hread

/-- The shapes that a first byte can announce, with what they say about the second byte. -/
inductive Announces (b : UInt8) : Shape → Prop
  | one (hhigh : b.toNat < 0x80) : Announces b ⟨0, 0, 0, b.toNat⟩
  | two (hlow : 0xC2 ≤ b.toNat) (hhigh : b.toNat < 0xE0) :
      Announces b ⟨1, 0x80, 0xBF, b.toNat - 0xC0⟩
  | three {low high : Nat} (hlow : 0xE0 ≤ b.toNat) (hhigh : b.toNat < 0xF0)
      (hrange : 0x80 ≤ low ∧ high ≤ 0xBF) (hfirst : b.toNat = 0xE0 → 0xA0 ≤ low)
      (hsurrogate : b.toNat = 0xED → high ≤ 0x9F) :
      Announces b ⟨2, low, high, b.toNat - 0xE0⟩
  | four {low high : Nat} (hlow : 0xF0 ≤ b.toNat) (hhigh : b.toNat ≤ 0xF4)
      (hrange : 0x80 ≤ low ∧ high ≤ 0xBF) (hfirst : b.toNat = 0xF0 → 0x90 ≤ low)
      (hlast : b.toNat = 0xF4 → high ≤ 0x8F) :
      Announces b ⟨3, low, high, b.toNat - 0xF0⟩

theorem announces_of_shape? {b : UInt8} {shape : Shape} (hshape : shape? b = some shape) :
    Announces b shape := by
  by_cases hone : b.toNat < 0x80
  · rw [shape?_one hone] at hshape
    cases hshape
    exact .one hone
  by_cases htwo : b.toNat < 0xE0
  · by_cases hstart : b.toNat < 0xC2
    · simp [shape?, hone, hstart] at hshape
    · rw [shape?_two (by omega) htwo] at hshape
      cases hshape
      exact .two (by omega) htwo
  by_cases hthree : b.toNat < 0xF0
  · rw [shape?_three (by omega) hthree] at hshape
    cases hshape
    exact .three (by omega) hthree (by grind) (by grind) (by grind)
  by_cases hfour : b.toNat ≤ 0xF4
  · rw [shape?_four (by omega) hfour] at hshape
    cases hshape
    exact .four (by omega) hfour (by grind) (by grind) (by grind)
  · unfold shape? at hshape
    grind

theorem toNat_ofNat_of_scalar {n : Nat} (hscalar : n < 0xD800 ∨ 0xDFFF < n ∧ n < 0x110000) :
    (Char.ofNat n).toNat = n := by
  rw [Char.ofNat, dif_pos hscalar]
  rfl

theorem toUInt8_eq {n : Nat} {b : UInt8} (hn : n = b.toNat) : n.toUInt8 = b := by
  rw [hn]
  exact UInt8.ofNat_toNat

theorem encodeChar_of_readChar {b : UInt8} {rest : List UInt8} {c : Char} {taken : Nat}
    (hread : readChar b rest = .ok (c, taken)) : encodeChar c = b :: rest.take taken := by
  unfold readChar at hread
  split at hread
  next => cases hread
  next shape hshape =>
    cases hn : continuations 1 shape.bits shape.low shape.high shape.follow rest with
    | error defect => simp [hn, Except.map] at hread
    | ok n =>
      simp only [hn, Except.map, Except.ok.injEq, Prod.mk.injEq] at hread
      obtain ⟨rfl, rfl⟩ := hread
      cases announces_of_shape? hshape with
      | one hhigh =>
          obtain rfl : b.toNat = n := by simpa [continuations] using hn
          rw [encodeChar, toNat_ofNat_of_scalar (by omega)]
          simp [hhigh]
      | two hlow hhigh =>
          dsimp only at hn
          obtain ⟨second, _, rfl, hsecond, hsecond', hn⟩ := continuations_succ_eq_ok hn
          simp only [continuations, Except.ok.injEq] at hn
          rw [encodeChar, toNat_ofNat_of_scalar (by omega)]
          dsimp only
          rw [if_neg (by omega), if_pos (by omega), toUInt8_eq (b := b) (by omega),
            toUInt8_eq (b := second) (by omega)]
          rfl
      | three hlow hhigh hrange hfirst hsurrogate =>
          dsimp only at hn
          obtain ⟨second, _, rfl, hsecond, hsecond', hn⟩ := continuations_succ_eq_ok hn
          obtain ⟨third, _, rfl, hthird, hthird', hn⟩ := continuations_succ_eq_ok hn
          simp only [continuations, Except.ok.injEq] at hn
          rw [encodeChar, toNat_ofNat_of_scalar (by omega)]
          dsimp only
          rw [if_neg (by omega), if_neg (by omega), if_pos (by omega), toUInt8_eq (b := b) (by omega),
            toUInt8_eq (b := second) (by omega), toUInt8_eq (b := third) (by omega)]
          rfl
      | four hlow hhigh hrange hfirst hlast =>
          dsimp only at hn
          obtain ⟨second, _, rfl, hsecond, hsecond', hn⟩ := continuations_succ_eq_ok hn
          obtain ⟨third, _, rfl, hthird, hthird', hn⟩ := continuations_succ_eq_ok hn
          obtain ⟨fourth, _, rfl, hfourth, hfourth', hn⟩ := continuations_succ_eq_ok hn
          simp only [continuations, Except.ok.injEq] at hn
          rw [encodeChar, toNat_ofNat_of_scalar (by omega)]
          dsimp only
          rw [if_neg (by omega), if_neg (by omega), if_neg (by omega), toUInt8_eq (b := b) (by omega),
            toUInt8_eq (b := second) (by omega), toUInt8_eq (b := third) (by omega),
            toUInt8_eq (b := fourth) (by omega)]
          rfl

theorem flatMap_encodeChar_of_decodeFrom {position : Nat} {bytes : List UInt8} {text : List Char}
    (hread : decodeFrom position bytes = .ok text) : text.flatMap encodeChar = bytes := by
  induction position, bytes using decodeFrom.induct generalizing text with
  | case1 position =>
      rw [decodeFrom] at hread
      cases hread
      rfl
  | case2 position b rest defect hchar =>
      rw [decodeFrom, hchar] at hread
      cases hread
  | case3 position b rest c taken hchar ih =>
      rw [decodeFrom, hchar] at hread
      dsimp only at hread
      cases hrest : decodeFrom (position + taken + 1) (rest.drop taken) with
      | error fault => simp [hrest, Except.map] at hread
      | ok others =>
          simp only [hrest, Except.map, Except.ok.injEq] at hread
          subst hread
          rw [List.flatMap_cons, ih hrest, encodeChar_of_readChar hchar, List.cons_append,
            List.take_append_drop]

/-- A text has one form in bytes: those that are read as the text are those that it is written with. -/
theorem encode_of_decode {bytes : List UInt8} {text : String} (hread : decode bytes = .ok text) :
    encode text = bytes := by
  rw [decode] at hread
  cases hchars : decodeFrom 0 bytes with
  | error fault => simp [hchars, Except.map] at hread
  | ok chars =>
      simp only [hchars, Except.map, Except.ok.injEq] at hread
      subst hread
      rw [encode, String.toList_ofList, flatMap_encodeChar_of_decodeFrom hchars]

theorem length_encodeChar (c : Char) : (encodeChar c).length = c.utf8Size := by
  unfold encodeChar Char.utf8Size
  grind [UInt32.le_iff_toNat_le, Char.toNat]

theorem length_flatMap_encodeChar (chars : List Char) :
    (chars.flatMap encodeChar).length = (String.ofList chars).utf8ByteSize := by
  induction chars with
  | nil => rfl
  | cons c rest ih =>
      rw [List.flatMap_cons, List.length_append, ih, length_encodeChar, String.ofList_cons,
        String.utf8ByteSize_append, String.utf8ByteSize_singleton]

theorem length_encode (text : String) : (encode text).length = text.utf8ByteSize := by
  rw [encode, length_flatMap_encodeChar, String.ofList_toList]

end AppSurvey.Utf8
