import AppSurvey.Dex.Image

/-!
# Writing and reading back

How numbers are written, and that reading them gives them back. `Reader.Reads` says of a reader that
it takes given bytes for a value wherever they stand in an image and stops right behind them. Readers
made of smaller ones keep this property part by part, so a whole record is read back because each of
its fields is.
-/

namespace AppSurvey.Dex

/-! ## Bytes in an image -/

/-- The bytes stand in the image from a position on. -/
def Holds (image : Image) : (position : Nat) → List UInt8 → Prop
  | _, [] => True
  | position, b :: rest => image[position]? = some b ∧ Holds image (position + 1) rest

instance Holds.decidable (image : Image) : ∀ position bytes, Decidable (Holds image position bytes)
  | _, [] => inferInstanceAs (Decidable True)
  | position, b :: rest =>
      have := Holds.decidable image (position + 1) rest
      inferInstanceAs (Decidable (image[position]? = some b ∧ Holds image (position + 1) rest))

theorem holds_append {image : Image} {position : Nat} {bytes rest : List UInt8} :
    Holds image position (bytes ++ rest) ↔
      Holds image position bytes ∧ Holds image (position + bytes.length) rest := by
  induction bytes generalizing position with
  | nil => simp [Holds]
  | cons b bytes ih =>
      simp only [List.cons_append, Holds, ih, List.length_cons, and_assoc]
      rw [show position + 1 + bytes.length = position + (bytes.length + 1) by omega]

theorem Holds.length_le {image : Image} {position : Nat} {bytes : List UInt8}
    (hbytes : Holds image position bytes) (hsome : bytes ≠ []) :
    position + bytes.length ≤ image.size := by
  induction bytes generalizing position with
  | nil => exact absurd rfl hsome
  | cons b rest ih =>
      obtain ⟨hfirst, hrest⟩ := hbytes
      obtain ⟨hposition, -⟩ := Array.getElem?_eq_some_iff.mp hfirst
      cases rest with
      | nil => exact hposition
      | cons second rest =>
          have hlength := ih hrest (List.cons_ne_nil _ _)
          simp only [List.length_cons] at hlength ⊢
          omega

theorem toNat_ne_zero {offset : UInt32} (hoffset : offset ≠ 0) : offset.toNat ≠ 0 :=
  fun heq => hoffset (UInt32.toNat_inj.mp heq)

/-! ## Numbers as bytes -/

/-- The bytes of a number of two bytes, the lower first. -/
def wordBytes (n : UInt16) : List UInt8 :=
  [(n.toNat % 256).toUInt8, (n.toNat / 256).toUInt8]

/-- The bytes of a number of four bytes, the lowest first. -/
def dwordBytes (n : UInt32) : List UInt8 :=
  [(n.toNat % 256).toUInt8, (n.toNat / 256 % 256).toUInt8, (n.toNat / 65536 % 256).toUInt8,
    (n.toNat / 16777216).toUInt8]

theorem length_dwordBytes (n : UInt32) : (dwordBytes n).length = 4 := rfl

/-- The bytes hold a number in groups of seven bits, the lowest first, every byte but the last with
its high bit set. -/
inductive IsGroups : List UInt8 → Nat → Prop
  | last {b : UInt8} (hlast : b.toNat < 128) : IsGroups [b] b.toNat
  | more {b : UInt8} {rest : List UInt8} {high : Nat} (hmore : 128 ≤ b.toNat)
      (hrest : IsGroups rest high) : IsGroups (b :: rest) (b.toNat - 128 + 128 * high)

theorem IsGroups.length_pos {bytes : List UInt8} {n : Nat} (hgroups : IsGroups bytes n) :
    0 < bytes.length := by
  cases hgroups <;> exact Nat.succ_pos _

/-- The bytes are a variable-length form of a number, not necessarily its shortest. -/
structure IsVarint (bytes : List UInt8) (n : UInt32) : Prop where
  groups : IsGroups bytes n.toNat
  length_le : bytes.length ≤ 5

/-- The shortest variable-length form of a number. -/
def varintBytes (n : Nat) : List UInt8 :=
  if n < 128 then [n.toUInt8]
  else (128 + n % 128).toUInt8 :: varintBytes (n / 128)

theorem isGroups_varintBytes (n : Nat) : IsGroups (varintBytes n) n := by
  fun_induction varintBytes n with
  | case1 n hlast =>
      have hbyte : n.toUInt8.toNat = n := UInt8.toNat_ofNat_of_lt' (Nat.lt_trans hlast (by decide))
      have hgroups := IsGroups.last (show n.toUInt8.toNat < 128 by rwa [hbyte])
      rwa [hbyte] at hgroups
  | case2 n hmore ih =>
      have hbyte : (128 + n % 128).toUInt8.toNat = 128 + n % 128 :=
        UInt8.toNat_ofNat_of_lt' (show 128 + n % 128 < 256 by omega)
      have hgroups := IsGroups.more (show 128 ≤ (128 + n % 128).toUInt8.toNat by omega) ih
      rwa [hbyte, show 128 + n % 128 - 128 + 128 * (n / 128) = n by omega] at hgroups

theorem length_varintBytes_le {k n : Nat} (hn : n < Nat.pow 128 (k + 1)) :
    (varintBytes n).length ≤ k + 1 := by
  induction k generalizing n with
  | zero =>
      rw [varintBytes, if_pos hn]
      exact Nat.le_refl 1
  | succ k ih =>
      rw [varintBytes]
      split
      next => exact Nat.succ_le_succ (Nat.zero_le _)
      next =>
        have hmul : n < Nat.pow 128 (k + 1) * 128 := hn
        exact Nat.succ_le_succ (ih (Nat.div_lt_of_lt_mul (by omega)))

theorem isVarint_varintBytes (n : UInt32) : IsVarint (varintBytes n.toNat) n := by
  have hlt := n.toNat_lt
  exact ⟨isGroups_varintBytes n.toNat, length_varintBytes_le (k := 4) (Nat.lt_trans hlt (by decide))⟩

namespace Reader

/-- Wherever the bytes stand, the reader takes them for the value and stops behind them. -/
def Reads {α : Type} (reader : Reader α) (bytes : List UInt8) (value : α) : Prop :=
  ∀ image position, Holds image position bytes →
    reader image position = .ok (value, position + bytes.length)

section Composition

variable {α β : Type}

theorem Reads.readAt {reader : Reader α} {bytes : List UInt8} {value : α}
    (hreader : reader.Reads bytes value) {image : Image} {position : Nat}
    (hbytes : Holds image position bytes) : reader.readAt image position = .ok value := by
  rw [Reader.readAt, hreader image position hbytes]
  rfl

theorem Reads.pure (value : α) : (Pure.pure value : Reader α).Reads [] value :=
  fun _ _ _ => rfl

theorem Reads.bind {first : Reader α} {next : α → Reader β} {bytes rest : List UInt8} {a : α} {b : β}
    (hfirst : first.Reads bytes a) (hnext : (next a).Reads rest b) :
    (first >>= next).Reads (bytes ++ rest) b := by
  intro image position hholds
  obtain ⟨hbytes, hrest⟩ := holds_append.mp hholds
  have hstep : (first >>= next) image position = next a image (position + bytes.length) := by
    change (first image position >>= fun result => next result.1 image result.2) = _
    rw [hfirst image position hbytes]
    rfl
  rw [hstep, hnext image _ hrest, List.length_append, Nat.add_assoc]

/-- A reader whose result is only rewritten reads the same bytes. -/
theorem Reads.map {reader : Reader α} {bytes : List UInt8} {value : α}
    (hreader : reader.Reads bytes value) (f : α → β) :
    (do let a ← reader; return f a : Reader β).Reads bytes (f value) := by
  have hbind : (reader >>= fun a => Pure.pure (f a)).Reads (bytes ++ []) (f value) :=
    hreader.bind (Reads.pure (f value))
  rwa [List.append_nil] at hbind

theorem Reads.times {reader : Reader α} {encode : α → List UInt8} {values : List α}
    (hreader : ∀ value ∈ values, reader.Reads (encode value) value) {n : Nat}
    (hlength : values.length = n) : (reader.times n).Reads (values.flatMap encode) values := by
  induction values generalizing n with
  | nil =>
      subst hlength
      exact Reads.pure []
  | cons value rest ih =>
      subst hlength
      rw [List.flatMap_cons]
      refine (hreader value List.mem_cons_self).bind ?_
      exact (ih (fun other hother => hreader other (List.mem_cons_of_mem _ hother)) rfl).map _

end Composition

/-! ## Reading numbers -/

theorem reads_byte (b : UInt8) : byte.Reads [b] b := by
  intro image position hholds
  simp [byte, hholds.1]

theorem reads_bytes {bytes : List UInt8} {n : Nat} (hlength : bytes.length = n) :
    (byte.times n).Reads bytes bytes := by
  have hreads := Reads.times (fun b (_ : b ∈ bytes) => reads_byte b) hlength
  rwa [List.flatMap_singleton'] at hreads

theorem reads_word (n : UInt16) : word.Reads (wordBytes n) n := by
  have hlt := n.toNat_lt
  have hlow : (n.toNat % 256).toUInt8.toNat = n.toNat % 256 :=
    UInt8.toNat_ofNat_of_lt' (Nat.mod_lt _ (by decide))
  have hhigh : (n.toNat / 256).toUInt8.toNat = n.toNat / 256 :=
    UInt8.toNat_ofNat_of_lt' (Nat.div_lt_of_lt_mul hlt)
  have hreads : word.Reads ([(n.toNat % 256).toUInt8] ++ [(n.toNat / 256).toUInt8])
      ((n.toNat % 256).toUInt8.toNat + 256 * (n.toNat / 256).toUInt8.toNat).toUInt16 :=
    (reads_byte _).bind ((reads_byte _).map _)
  rw [hlow, hhigh, Nat.mod_add_div] at hreads
  rwa [show n.toNat.toUInt16 = n by simp] at hreads

theorem reads_dword (n : UInt32) : dword.Reads (dwordBytes n) n := by
  have hlt := n.toNat_lt
  have hlow : (n.toNat % 65536).toUInt16.toNat = n.toNat % 65536 :=
    UInt16.toNat_ofNat_of_lt' (Nat.mod_lt _ (by decide))
  have hhigh : (n.toNat / 65536).toUInt16.toNat = n.toNat / 65536 :=
    UInt16.toNat_ofNat_of_lt' (Nat.div_lt_of_lt_mul hlt)
  -- The four bytes are those of the lower half and of the upper half.
  have hbytes : dwordBytes n =
      wordBytes (n.toNat % 65536).toUInt16 ++ wordBytes (n.toNat / 65536).toUInt16 := by
    simp only [dwordBytes, wordBytes, hlow, hhigh, List.cons_append, List.nil_append]
    rw [show n.toNat % 65536 % 256 = n.toNat % 256 by omega,
      show n.toNat % 65536 / 256 = n.toNat / 256 % 256 by omega,
      show n.toNat / 65536 / 256 = n.toNat / 16777216 by omega]
  have hreads : dword.Reads
      (wordBytes (n.toNat % 65536).toUInt16 ++ wordBytes (n.toNat / 65536).toUInt16)
      ((n.toNat % 65536).toUInt16.toNat + 65536 * (n.toNat / 65536).toUInt16.toNat).toUInt32 :=
    (reads_word _).bind ((reads_word _).map _)
  rw [hlow, hhigh, Nat.mod_add_div, ← hbytes] at hreads
  rwa [show n.toNat.toUInt32 = n by simp] at hreads

/-! ## Reading variable-length numbers -/

theorem toNat_lowBits (b : UInt8) : (b &&& 0x7F).toNat = b.toNat % 128 := by
  rw [UInt8.toNat_and]
  exact Nat.and_two_pow_sub_one_eq_mod b.toNat 7

theorem highBit_clear_iff (b : UInt8) : b &&& 0x80 = 0 ↔ b.toNat < 128 := by
  have hall : ∀ n < 256, n &&& 128 = 0 ↔ n < 128 := by decide +kernel
  rw [← UInt8.toNat_inj, UInt8.toNat_and]
  exact hall b.toNat b.toNat_lt

/-- A group goes in above the value, and what does not fit into the word is lost. -/
theorem toNat_addGroup {value shift : UInt32} (hshift : shift.toNat < 32)
    (hvalue : value.toNat < 1 <<< shift.toNat) (b : UInt8) :
    (value ||| (b &&& 0x7F).toUInt32 <<< shift).toNat =
      (value.toNat + (b.toNat % 128) <<< shift.toNat) % UInt32.size := by
  rw [Nat.one_shiftLeft] at hvalue
  have hdisjoint := Nat.shiftLeft_add_eq_or_of_lt hvalue (b.toNat % 128)
  have hword : value.toNat % UInt32.size = value.toNat := Nat.mod_eq_of_lt value.toNat_lt
  calc (value ||| (b &&& 0x7F).toUInt32 <<< shift).toNat
      = value.toNat ||| (b.toNat % 128) <<< shift.toNat % UInt32.size := by
        rw [UInt32.toNat_or, UInt32.toNat_shiftLeft, Nat.mod_eq_of_lt hshift, UInt8.toNat_toUInt32,
          toNat_lowBits]
    _ = value.toNat % UInt32.size ||| (b.toNat % 128) <<< shift.toNat % UInt32.size := by rw [hword]
    _ = (value.toNat ||| (b.toNat % 128) <<< shift.toNat) % UInt32.size :=
        (Nat.or_mod_two_pow (n := 32)).symm
    _ = (value.toNat + (b.toNat % 128) <<< shift.toNat) % UInt32.size := by
        rw [Nat.or_comm, ← hdisjoint, Nat.add_comm]

/-- A group that is not the last one has room in the word. -/
theorem toNat_addGroup_of_room {value shift : UInt32} (hshift : shift.toNat + 7 < 32)
    (hvalue : value.toNat < 1 <<< shift.toNat) (b : UInt8) :
    (value ||| (b &&& 0x7F).toUInt32 <<< shift).toNat =
        value.toNat + (b.toNat % 128) <<< shift.toNat ∧
      value.toNat + (b.toNat % 128) <<< shift.toNat < 1 <<< (shift.toNat + 7) := by
  have hlt : value.toNat + (b.toNat % 128) <<< shift.toNat < 1 <<< (shift.toNat + 7) := by
    have hgroup := Nat.mul_le_mul_right (1 <<< shift.toNat) (show b.toNat % 128 ≤ 127 by omega)
    simp only [Nat.shiftLeft_eq, Nat.one_mul, Nat.pow_add] at hvalue hgroup ⊢
    omega
  have hfits : 1 <<< (shift.toNat + 7) < UInt32.size := by
    rw [Nat.one_shiftLeft]
    exact Nat.pow_lt_pow_right (by decide) hshift
  exact ⟨by rw [toNat_addGroup (by omega) hvalue, Nat.mod_eq_of_lt (Nat.lt_trans hlt hfits)], hlt⟩

theorem toNat_nextShift {shift : UInt32} (hshift : shift.toNat < 32) :
    (shift + 7).toNat = shift.toNat + 7 := by
  rw [UInt32.toNat_add]
  exact Nat.mod_eq_of_lt (Nat.lt_trans (Nat.add_lt_add_right hshift 7) (by decide))

/-- What stands behind a group begins seven bits higher. -/
theorem add_shiftLeft_more {b : UInt8} (hmore : 128 ≤ b.toNat) (value shift high : Nat) :
    value + (b.toNat % 128) <<< shift + high <<< (shift + 7) =
      value + (b.toNat - 128 + 128 * high) <<< shift := by
  have hbyte := b.toNat_lt
  have hlow : b.toNat % 128 = b.toNat - 128 := by omega
  have hhigh : high <<< (shift + 7) = 128 * high <<< shift := by
    rw [Nat.shiftLeft_add, Nat.shiftLeft_eq _ 7, Nat.mul_comm]
  rw [hlow, hhigh]
  simp only [Nat.shiftLeft_eq, Nat.add_mul, Nat.mul_assoc]
  omega

/-- The groups of a number go in above the value that was read before them. -/
theorem reads_groups {bytes : List UInt8} {n : Nat} (hgroups : IsGroups bytes n) {left : Nat}
    {value shift : UInt32} (hleft : bytes.length ≤ left) (hshift : shift.toNat + 7 * left ≤ 35)
    (hvalue : value.toNat < 1 <<< shift.toNat) :
    (groups left value shift).Reads bytes (value.toNat + n <<< shift.toNat).toUInt32 := by
  induction hgroups generalizing left value shift with
  | @last b hlast =>
      obtain ⟨left, rfl⟩ := Nat.exists_eq_add_of_le' hleft
      rw [List.length_singleton] at hshift
      have hsum := toNat_addGroup (by omega) hvalue b
      rw [Nat.mod_eq_of_lt hlast] at hsum
      have hword : value ||| (b &&& 0x7F).toUInt32 <<< shift =
          (value.toNat + b.toNat <<< shift.toNat).toUInt32 := UInt32.toNat_inj.mp hsum
      rw [← List.append_nil [b]]
      refine (reads_byte b).bind ?_
      rw [if_pos ((highBit_clear_iff b).mpr hlast), hword]
      exact Reads.pure _
  | @more b rest high hmore hrest ih =>
      obtain ⟨left, rfl⟩ := Nat.exists_eq_add_of_le' (Nat.le_trans (Nat.le_add_left 1 _) hleft)
      have hleft : rest.length ≤ left := Nat.le_of_succ_le_succ hleft
      -- A byte is still to come, so the group ends by the bit 28 and the word holds all of it.
      have hpos := hrest.length_pos
      obtain ⟨hsum, hlt⟩ := toNat_addGroup_of_room (by omega) hvalue b
      have hnext : (shift + 7).toNat = shift.toNat + 7 := toNat_nextShift (by omega)
      have hroom : (shift + 7).toNat + 7 * left ≤ 35 := by omega
      have hreads := ih hleft hroom (by rwa [hsum, hnext])
      rw [hsum, hnext, add_shiftLeft_more hmore] at hreads
      rw [← List.singleton_append]
      refine (reads_byte b).bind ?_
      rw [if_neg (mt (highBit_clear_iff b).mp (Nat.not_lt.mpr hmore))]
      exact hreads

/-- A number of at most five groups is read as what its word holds of it. -/
theorem reads_varint_of_isGroups {bytes : List UInt8} {n : Nat} (hgroups : IsGroups bytes n)
    (hlength : bytes.length ≤ 5) : varint.Reads bytes n.toUInt32 := by
  have hreads : varint.Reads bytes ((0 : UInt32).toNat + n <<< (0 : UInt32).toNat).toUInt32 :=
    reads_groups hgroups hlength (by decide) (by decide)
  rwa [show (0 : UInt32).toNat + n <<< (0 : UInt32).toNat = n from Nat.zero_add n] at hreads

theorem reads_varint {bytes : List UInt8} {n : UInt32} (hbytes : IsVarint bytes n) :
    varint.Reads bytes n := by
  have hreads := reads_varint_of_isGroups hbytes.groups hbytes.length_le
  rwa [show n.toNat.toUInt32 = n by simp] at hreads

/-! ## Reading up to a zero byte -/

theorem reads_untilZero {bytes : List UInt8} (hzero : 0 ∉ bytes) {left : Nat}
    (hleft : bytes.length < left) : (untilZero left).Reads (bytes ++ [0]) bytes := by
  induction bytes generalizing left with
  | nil =>
      obtain ⟨left, rfl⟩ := Nat.exists_eq_add_one_of_ne_zero (Nat.ne_of_gt hleft)
      exact (reads_byte 0).bind (Reads.pure [])
  | cons b rest ih =>
      obtain ⟨left, rfl⟩ := Nat.exists_eq_add_one_of_ne_zero (Nat.ne_of_gt (Nat.zero_lt_of_lt hleft))
      rw [List.mem_cons, not_or] at hzero
      rw [List.cons_append, ← List.singleton_append]
      refine (reads_byte b).bind ?_
      rw [if_neg (Ne.symm hzero.1)]
      exact (ih hzero.2 (by simpa using hleft)).map _

theorem reads_zeroTerminated {bytes : List UInt8} (hzero : 0 ∉ bytes) :
    zeroTerminated.Reads (bytes ++ [0]) bytes := by
  intro image position hholds
  -- The reader may go on to the end of the image, and the zero byte stands before it.
  have hlength := hholds.length_le (by simp)
  rw [List.length_append, List.length_singleton] at hlength
  exact reads_untilZero hzero (by omega) image position hholds

end Reader

end AppSurvey.Dex
