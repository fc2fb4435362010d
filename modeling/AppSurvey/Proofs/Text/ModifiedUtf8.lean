import AppSurvey.Proofs.Text.Utf8
import Mathlib.Data.List.Basic

/-!
# Modified UTF-8

The form in which DEX files hold text. Each UTF-16 unit of the text takes one to three bytes, and the
unit zero takes two, so that no byte is zero and a zero byte can end the text. Where a text has only
characters of one unit and no zero, this is its UTF-8 form.
-/

namespace AppSurvey.ModifiedUtf8

/-- The UTF-16 units of a character. -/
def unitsOf (c : Char) : List Nat :=
  if c.toNat < 0x10000 then [c.toNat]
  else [0xD800 + (c.toNat - 0x10000) / 1024, 0xDC00 + (c.toNat - 0x10000) % 1024]

/-- The UTF-16 units of a text. -/
def units (text : String) : List Nat :=
  text.toList.flatMap unitsOf

/-- The bytes of a unit. -/
def encodeUnit (unit : Nat) : List UInt8 :=
  if unit = 0 then [0xC0, 0x80]
  else if unit < 0x80 then [unit.toUInt8]
  else if unit < 0x800 then [(0xC0 + unit / 64).toUInt8, (0x80 + unit % 64).toUInt8]
  else
    [(0xE0 + unit / 4096).toUInt8, (0x80 + unit / 64 % 64).toUInt8, (0x80 + unit % 64).toUInt8]

/-- The bytes of a text. -/
def encode (text : String) : List UInt8 :=
  (units text).flatMap encodeUnit

theorem lt_of_mem_unitsOf {c : Char} {unit : Nat} (hunit : unit ∈ unitsOf c) : unit < 0x10000 := by
  have hscalar := Utf8.toNat_scalar c
  unfold unitsOf at hunit
  split at hunit
  next hone =>
    rw [List.mem_singleton.mp hunit]
    exact hone
  next htwo =>
    simp only [List.mem_cons, List.not_mem_nil, or_false] at hunit
    omega

theorem toUInt8_ne_zero {n : Nat} (hlow : 0 < n) (hhigh : n < 256) : n.toUInt8 ≠ 0 := by
  intro hzero
  have htoNat : n.toUInt8.toNat = n := UInt8.toNat_ofNat_of_lt' hhigh
  rw [hzero] at htoNat
  exact absurd htoNat.symm (Nat.ne_of_gt hlow)

theorem zero_notMem_encodeUnit {unit : Nat} (hunit : unit < 0x10000) : 0 ∉ encodeUnit unit := by
  intro hzero
  unfold encodeUnit at hzero
  split at hzero
  next => simp at hzero
  next hsome =>
    split at hzero
    next hone =>
      rw [List.mem_singleton] at hzero
      exact toUInt8_ne_zero (by omega) (by omega) hzero.symm
    next hone =>
      split at hzero
      next htwo =>
        simp only [List.mem_cons, List.not_mem_nil, or_false] at hzero
        rcases hzero with hzero | hzero
        · exact toUInt8_ne_zero (by omega) (by omega) hzero.symm
        · exact toUInt8_ne_zero (by omega) (by omega) hzero.symm
      next hthree =>
        simp only [List.mem_cons, List.not_mem_nil, or_false] at hzero
        rcases hzero with hzero | hzero | hzero
        · exact toUInt8_ne_zero (by omega) (by omega) hzero.symm
        · exact toUInt8_ne_zero (by omega) (by omega) hzero.symm
        · exact toUInt8_ne_zero (by omega) (by omega) hzero.symm

/-- No byte of a text is zero. -/
theorem zero_notMem_encode (text : String) : 0 ∉ encode text := by
  intro hzero
  obtain ⟨unit, hunit, hzero⟩ := List.mem_flatMap.mp hzero
  obtain ⟨c, -, hunit⟩ := List.mem_flatMap.mp hunit
  exact zero_notMem_encodeUnit (lt_of_mem_unitsOf hunit) hzero

/-- Every character of the text lies in U+0001 to U+FFFF. -/
def IsPlain (text : String) : Prop :=
  ∀ c ∈ text.toList, 0 < c.toNat ∧ c.toNat < 0x10000

instance IsPlain.decidable (text : String) : Decidable (IsPlain text) :=
  List.decidableBAll _ text.toList

theorem flatMap_encodeUnit_unitsOf {c : Char} (hlow : 0 < c.toNat) (hhigh : c.toNat < 0x10000) :
    (unitsOf c).flatMap encodeUnit = Utf8.encodeChar c := by
  rw [unitsOf, if_pos hhigh, List.flatMap_singleton, encodeUnit, if_neg (Nat.ne_of_gt hlow),
    Utf8.encodeChar]
  simp only [hhigh, if_true]

theorem flatMap_encodeUnit_eq {chars : List Char}
    (hplain : ∀ c ∈ chars, 0 < c.toNat ∧ c.toNat < 0x10000) :
    (chars.flatMap unitsOf).flatMap encodeUnit = chars.flatMap Utf8.encodeChar := by
  rw [List.flatMap_assoc]
  apply List.flatMap_congr
  intro c hc
  exact flatMap_encodeUnit_unitsOf (hplain c hc).1 (hplain c hc).2

theorem encode_eq_of_isPlain {text : String} (hplain : IsPlain text) :
    encode text = Utf8.encode text :=
  flatMap_encodeUnit_eq hplain

/-- A plain text is read back from its bytes. -/
theorem decode_encode_of_isPlain {text : String} (hplain : IsPlain text) :
    Utf8.decode (encode text) = .ok text := by
  rw [encode_eq_of_isPlain hplain, Utf8.decode_encode]

/-! ## Texts that are not plain -/

/-- The fault at the first character that is not plain, with the characters in front of it. -/
def refusal (front : List Char) (c : Char) : Utf8.Fault where
  position := (front.flatMap Utf8.encodeChar).length
  byte := if c.toNat = 0 then 0xC0 else 0xED
  defect := if c.toNat = 0 then .start else .continuation 1

theorem isPlain_or_first (text : String) :
    IsPlain text ∨ ∃ front c back, text.toList = front ++ c :: back ∧
      (∀ d ∈ front, 0 < d.toNat ∧ d.toNat < 0x10000) ∧ (c.toNat = 0 ∨ 0x10000 ≤ c.toNat) := by
  unfold IsPlain
  induction text.toList with
  | nil => simp
  | cons d rest ih =>
      by_cases hplain : 0 < d.toNat ∧ d.toNat < 0x10000
      · rcases ih with hrest | ⟨front, c, back, rfl, hfront, hc⟩
        · exact .inl (List.forall_mem_cons.mpr ⟨hplain, hrest⟩)
        · exact .inr ⟨d :: front, c, back, rfl, List.forall_mem_cons.mpr ⟨hplain, hfront⟩, hc⟩
      · exact .inr ⟨[], d, rest, rfl, by simp, by omega⟩

/-- The high surrogate of a character begins with the bytes that UTF-8 keeps free for it. -/
theorem exists_surrogate_bytes {c : Char} (hhigh : 0x10000 ≤ c.toNat) :
    ∃ second rest, (unitsOf c).flatMap encodeUnit = 0xED :: second :: rest ∧ 0x9F < second.toNat := by
  have hscalar := Utf8.toNat_scalar c
  rw [unitsOf, if_neg (by omega), List.flatMap_cons]
  generalize hunit : 0xD800 + (c.toNat - 0x10000) / 1024 = unit
  have hfirst : (0xE0 + unit / 4096).toUInt8 = 0xED := by
    rw [show 0xE0 + unit / 4096 = 0xED by omega]
    rfl
  have hsecond := Utf8.toNat_continuation (unit / 64)
  rw [encodeUnit, if_neg (by omega), if_neg (by omega), if_neg (by omega), hfirst]
  exact ⟨_, _, rfl, by omega⟩

theorem readChar_surrogate {second : UInt8} (hsecond : 0x9F < second.toNat) (rest : List UInt8) :
    Utf8.readChar 0xED (second :: rest) = .error (.continuation 1) := by
  have hshape : Utf8.shape? 0xED = some ⟨2, 0x80, 0x9F, 0xD⟩ := rfl
  rw [Utf8.readChar, hshape]
  dsimp only
  rw [Utf8.continuations, if_neg (by omega)]
  rfl

theorem decodeFrom_unitsOf_append {c : Char} (hc : c.toNat = 0 ∨ 0x10000 ≤ c.toNat) (position : Nat)
    (rest : List UInt8) :
    Utf8.decodeFrom position ((unitsOf c).flatMap encodeUnit ++ rest) =
      .error { refusal [] c with position } := by
  rcases hc with hzero | hhigh
  · have hbytes : (unitsOf c).flatMap encodeUnit = [0xC0, 0x80] := by
      simp [unitsOf, encodeUnit, hzero]
    have hstart : Utf8.readChar 0xC0 ([0x80] ++ rest) = .error .start := rfl
    rw [hbytes, List.cons_append, Utf8.decodeFrom, hstart]
    simp only [refusal, if_pos hzero]
  · obtain ⟨second, others, hbytes, hsecond⟩ := exists_surrogate_bytes hhigh
    have hzero : c.toNat ≠ 0 := by omega
    rw [hbytes, List.cons_append, List.cons_append, Utf8.decodeFrom, readChar_surrogate hsecond]
    simp only [refusal, if_neg hzero]

/-- A text that is not plain is refused at its first character that is not. -/
theorem decode_encode_of_first {text : String} {front back : List Char} {c : Char}
    (htext : text.toList = front ++ c :: back)
    (hfront : ∀ d ∈ front, 0 < d.toNat ∧ d.toNat < 0x10000) (hc : c.toNat = 0 ∨ 0x10000 ≤ c.toNat) :
    Utf8.decode (encode text) = .error (refusal front c) := by
  rw [encode, units, htext, List.flatMap_append, List.flatMap_append, flatMap_encodeUnit_eq hfront,
    List.flatMap_cons, List.flatMap_append, Utf8.decode, Utf8.decodeFrom_flatMap_append,
    decodeFrom_unitsOf_append hc, Nat.zero_add]
  rfl

/-- What is read from the bytes of a text is the text, and it is plain. -/
theorem decode_encode_eq_ok_iff {text other : String} :
    Utf8.decode (encode text) = .ok other ↔ other = text ∧ IsPlain text := by
  constructor
  · intro hread
    rcases isPlain_or_first text with hplain | ⟨front, c, back, htext, hfront, hc⟩
    · rw [decode_encode_of_isPlain hplain, Except.ok.injEq] at hread
      exact ⟨hread.symm, hplain⟩
    · rw [decode_encode_of_first htext hfront hc] at hread
      cases hread
  · rintro ⟨rfl, hplain⟩
    exact decode_encode_of_isPlain hplain

end AppSurvey.ModifiedUtf8
