import AppSurvey.Proofs.Dex.Image
import Mathlib.Algebra.BigOperators.Fin
import Mathlib.Tactic.Ring

/-!
# Variable-length numbers

Which bytes are read as a variable-length number, which number that is, and where the reader stops. The
bytes from a position on are of one of three kinds: within five bytes one has no high bit, the first five
all have it, or the image ends before either shows. The reader answers each kind in its own way, so its
answer tells the kind.

A fifth byte holds three bits more than the word has room for. They are lost, and so is the number, as soon
as one of them is set.
-/

namespace AppSurvey.Dex

/-! ## The number that bytes stand for -/

/-- The low seven bits of all bytes, those of the byte `i` times `2 ^ (7 * i)`. -/
def groupSum (bytes : List UInt8) : Nat :=
  ∑ i : Fin bytes.length, (bytes.get i).toNat % 128 * 2 ^ (7 * i.val)

theorem groupSum_cons (b : UInt8) (rest : List UInt8) :
    groupSum (b :: rest) = b.toNat % 128 + 128 * groupSum rest := by
  have hfirst : groupSum (b :: rest) = b.toNat % 128 * 2 ^ (7 * 0) +
      ∑ i : Fin rest.length, (rest.get i).toNat % 128 * 2 ^ (7 * (i.val + 1)) :=
    Fin.sum_univ_succ _
  rw [hfirst, groupSum, Finset.mul_sum, Nat.mul_zero, pow_zero, Nat.mul_one]
  congr 1
  refine Finset.sum_congr rfl fun i _ => ?_
  rw [Nat.mul_add, pow_add]
  ring

theorem IsGroups.eq_groupSum {bytes : List UInt8} {n : Nat} (hgroups : IsGroups bytes n) :
    n = groupSum bytes := by
  induction hgroups with
  | @last b hlast => rw [groupSum_cons, Nat.mod_eq_of_lt hlast]; rfl
  | @more b rest high hmore _ ih =>
      have hbyte := b.toNat_lt
      rw [groupSum_cons, ← ih, show b.toNat % 128 = b.toNat - 128 by omega]

/-- No form of a number is shorter than the one that drops every group it can. -/
theorem IsGroups.length_varintBytes_le {bytes : List UInt8} {n : Nat} (hgroups : IsGroups bytes n) :
    (varintBytes n).length ≤ bytes.length := by
  induction hgroups with
  | @last b hlast => rw [varintBytes, if_pos hlast]; rfl
  | @more b rest high hmore _ ih =>
      have hbyte := b.toNat_lt
      rw [varintBytes]
      split
      next => exact Nat.succ_le_succ (Nat.zero_le _)
      next => rw [show (b.toNat - 128 + 128 * high) / 128 = high by omega]; exact Nat.succ_le_succ ih

/-! ## Kinds of bytes -/

/-- The first `k` bytes are there and have their high bit set. -/
def HighUpTo (bytes : List UInt8) (k : Nat) : Prop :=
  ∃ front rest, bytes = front ++ rest ∧ front.length = k ∧ ∀ b ∈ front, 128 ≤ b.toNat

/-- The first `k` bytes are one number: the last of them has no high bit, and those before it have. -/
def EndsAt (bytes : List UInt8) (k : Nat) : Prop :=
  ∃ front last rest, bytes = front ++ last :: rest ∧ front.length + 1 = k ∧
    (∀ b ∈ front, 128 ≤ b.toNat) ∧ last.toNat < 128

theorem EndsAt.cons {b : UInt8} {rest : List UInt8} {k : Nat} (hb : 128 ≤ b.toNat)
    (hends : EndsAt rest k) : EndsAt (b :: rest) (k + 1) := by
  obtain ⟨front, last, behind, rfl, rfl, hfront, hlast⟩ := hends
  exact ⟨b :: front, last, behind, rfl, rfl, List.forall_mem_cons.mpr ⟨hb, hfront⟩, hlast⟩

theorem HighUpTo.cons {b : UInt8} {rest : List UInt8} {k : Nat} (hb : 128 ≤ b.toNat)
    (hhigh : HighUpTo rest k) : HighUpTo (b :: rest) (k + 1) := by
  obtain ⟨front, behind, rfl, rfl, hfront⟩ := hhigh
  exact ⟨b :: front, behind, rfl, rfl, List.forall_mem_cons.mpr ⟨hb, hfront⟩⟩

/-- The bytes of a number all have their high bit set, up to the last one. -/
theorem EndsAt.highUpTo {bytes : List UInt8} {k j : Nat} (hends : EndsAt bytes k) (hj : j < k) :
    HighUpTo bytes j := by
  obtain ⟨front, last, rest, rfl, rfl, hfront, -⟩ := hends
  refine ⟨front.take j, front.drop j ++ last :: rest, ?_, ?_, fun b hb => ?_⟩
  · rw [← List.append_assoc, List.take_append_drop]
  · rw [List.length_take, Nat.min_eq_left (Nat.le_of_lt_succ hj)]
  · exact hfront b (List.mem_of_mem_take hb)

/-- Every list of bytes is of one of the three kinds. -/
theorem ends_or_highUpTo_or_short (bytes : List UInt8) (left : Nat) :
    (∃ k ≤ left, EndsAt bytes k) ∨ HighUpTo bytes left ∨
      bytes.length < left ∧ ∀ b ∈ bytes, 128 ≤ b.toNat := by
  induction bytes generalizing left with
  | nil =>
      cases left with
      | zero => exact .inr (.inl ⟨[], [], rfl, rfl, by simp⟩)
      | succ left => exact .inr (.inr ⟨Nat.succ_pos left, by simp⟩)
  | cons b rest ih =>
      cases left with
      | zero => exact .inr (.inl ⟨[], b :: rest, rfl, rfl, by simp⟩)
      | succ left =>
          by_cases hb : b.toNat < 128
          · exact .inl ⟨1, Nat.succ_pos left, [], b, rest, rfl, rfl, by simp, hb⟩
          · have hb : 128 ≤ b.toNat := Nat.le_of_not_lt hb
            rcases ih left with ⟨k, hk, hends⟩ | hhigh | ⟨hshort, hhigh⟩
            · exact .inl ⟨k + 1, Nat.succ_le_succ hk, hends.cons hb⟩
            · exact .inr (.inl (hhigh.cons hb))
            · exact .inr (.inr ⟨Nat.succ_lt_succ hshort, List.forall_mem_cons.mpr ⟨hb, hhigh⟩⟩)

theorem isGroups_of_high {front : List UInt8} {last : UInt8} (hfront : ∀ b ∈ front, 128 ≤ b.toNat)
    (hlast : last.toNat < 128) : ∃ n, IsGroups (front ++ [last]) n := by
  induction front with
  | nil => exact ⟨_, .last hlast⟩
  | cons b front ih =>
      obtain ⟨hb, hfront⟩ := List.forall_mem_cons.mp hfront
      obtain ⟨n, hgroups⟩ := ih hfront
      exact ⟨_, .more hb hgroups⟩

/-- Bytes that end at `k` are in groups up to there. -/
theorem EndsAt.isGroups {bytes : List UInt8} {k : Nat} (hends : EndsAt bytes k) :
    IsGroups (bytes.take k) (groupSum (bytes.take k)) ∧ (bytes.take k).length = k := by
  obtain ⟨front, last, rest, rfl, rfl, hfront, hlast⟩ := hends
  have htake : (front ++ last :: rest).take (front.length + 1) = front ++ [last] := by
    rw [List.append_cons, List.take_left' (by simp)]
  obtain ⟨n, hgroups⟩ := isGroups_of_high hfront hlast
  rw [htake]
  exact ⟨hgroups.eq_groupSum ▸ hgroups, by simp⟩

theorem holds_iff_prefix_drop {image : Image} {position : Nat} {bytes : List UInt8} :
    Holds image position bytes ↔ bytes <+: image.toList.drop position := by
  induction bytes generalizing position with
  | nil => simp [Holds]
  | cons b rest ih =>
      rw [Holds, ih, ← List.tail_drop, ← Array.getElem?_toList, ← List.head?_drop]
      cases image.toList.drop position with
      | nil => simp
      | cons c bytes => simp [List.cons_prefix_cons, eq_comm]

/-! ## The answer to each kind -/

namespace Reader

variable {image : Image} {position : Nat}

theorem byte_bind {β : Type} {next : UInt8 → Reader β} {b : UInt8} (hbyte : image[position]? = some b) :
    (byte >>= next) image position = next b image (position + 1) := by
  change (byte image position >>= fun result => next result.1 image result.2) = _
  rw [byte, hbyte]
  rfl

theorem byte_bind_of_end {β : Type} {next : UInt8 → Reader β} (hend : image[position]? = none) :
    (byte >>= next) image position = .error .truncated := by
  change (byte image position >>= fun result => next result.1 image result.2) = _
  rw [byte, hend]
  rfl

/-- Bytes with their high bit set take the reader on to the byte behind them. -/
theorem groups_of_high {front : List UInt8} (hhigh : ∀ b ∈ front, 128 ≤ b.toNat)
    (hholds : Holds image position front) (left : Nat) (value shift : UInt32) :
    ∃ value' shift', groups (front.length + left) value shift image position =
      groups left value' shift' image (position + front.length) := by
  induction front generalizing position value shift with
  | nil => exact ⟨value, shift, by simp⟩
  | cons b rest ih =>
      obtain ⟨hb, hhigh⟩ := List.forall_mem_cons.mp hhigh
      obtain ⟨value', shift', hrest⟩ := ih hhigh hholds.2
        (value ||| (b &&& 0x7F).toUInt32 <<< shift) (shift + 7)
      refine ⟨value', shift', ?_⟩
      rw [List.length_cons, Nat.add_right_comm, groups, byte_bind hholds.1,
        if_neg (mt (highBit_clear_iff b).mp (Nat.not_lt.mpr hb)), hrest, Nat.add_assoc, Nat.add_comm 1]

theorem varint_of_endsAt {k : Nat} (hends : EndsAt (image.toList.drop position) k) (hk : k ≤ 5) :
    varint image position =
      .ok ((groupSum ((image.toList.drop position).take k)).toUInt32, position + k) := by
  obtain ⟨hgroups, hlength⟩ := hends.isGroups
  have hstart := List.take_prefix k (image.toList.drop position)
  have hreads := reads_varint_of_isGroups hgroups (hlength.le.trans hk) image position
    (holds_iff_prefix_drop.mpr hstart)
  rwa [hlength] at hreads

theorem varint_of_highUpTo (hhigh : HighUpTo (image.toList.drop position) 5) :
    varint image position = .error .varintTooLong := by
  obtain ⟨front, rest, hbytes, hlength, hfront⟩ := hhigh
  have hholds : Holds image position front := holds_iff_prefix_drop.mpr ⟨rest, hbytes.symm⟩
  obtain ⟨value', shift', hpassed⟩ := groups_of_high hfront hholds 0 0 0
  rw [hlength] at hpassed
  exact hpassed

theorem varint_of_short (hshort : (image.toList.drop position).length < 5)
    (hhigh : ∀ b ∈ image.toList.drop position, 128 ≤ b.toNat) :
    varint image position = .error .truncated := by
  obtain ⟨left, hleft⟩ := Nat.exists_eq_add_of_lt hshort
  have hholds : Holds image position (image.toList.drop position) :=
    holds_iff_prefix_drop.mpr (List.prefix_refl _)
  have hend : image[position + (image.toList.drop position).length]? = none := by
    rw [Array.getElem?_eq_none_iff, List.length_drop, Array.length_toList]
    omega
  obtain ⟨value', shift', hpassed⟩ := groups_of_high hhigh hholds (left + 1) 0 0
  rw [varint, hleft, Nat.add_assoc, hpassed, groups, byte_bind_of_end hend]

/-- The three answers there are. -/
theorem varint_answers (image : Image) (position : Nat) :
    (∃ k ≤ 5, EndsAt (image.toList.drop position) k ∧ varint image position =
        .ok ((groupSum ((image.toList.drop position).take k)).toUInt32, position + k)) ∨
      HighUpTo (image.toList.drop position) 5 ∧ varint image position = .error .varintTooLong ∨
      varint image position = .error .truncated := by
  rcases ends_or_highUpTo_or_short (image.toList.drop position) 5 with
    ⟨k, hk, hends⟩ | hhigh | ⟨hshort, hhigh⟩
  · exact .inl ⟨k, hk, hends, varint_of_endsAt hends hk⟩
  · exact .inr (.inl ⟨hhigh, varint_of_highUpTo hhigh⟩)
  · exact .inr (.inr (varint_of_short hshort hhigh))

/-- What is read are the bytes of one number, reduced to what a word holds of it. -/
theorem endsAt_of_varint {n : UInt32} {next : Nat} (hread : varint image position = .ok (n, next)) :
    ∃ k ≤ 5, EndsAt (image.toList.drop position) k ∧ next = position + k ∧
      n.toNat = groupSum ((image.toList.drop position).take k) % UInt32.size := by
  rcases varint_answers image position with ⟨k, hk, hends, hanswer⟩ | ⟨-, hanswer⟩ | hanswer
  · cases hread.symm.trans hanswer
    exact ⟨k, hk, hends, rfl, rfl⟩
  · cases hread.symm.trans hanswer
  · cases hread.symm.trans hanswer

theorem varint_tooLong_iff :
    varint image position = .error .varintTooLong ↔ HighUpTo (image.toList.drop position) 5 := by
  refine ⟨fun htooLong => ?_, varint_of_highUpTo⟩
  rcases varint_answers image position with ⟨k, hk, hends, hanswer⟩ | ⟨hhigh, -⟩ | hanswer
  · cases htooLong.symm.trans hanswer
  · exact hhigh
  · cases htooLong.symm.trans hanswer

theorem varint_truncated_iff :
    varint image position = .error .truncated ↔
      ¬ (∃ k ≤ 5, EndsAt (image.toList.drop position) k) ∧
        ¬ HighUpTo (image.toList.drop position) 5 := by
  constructor
  · intro htruncated
    constructor
    · rintro ⟨k, hk, hends⟩
      cases htruncated.symm.trans (varint_of_endsAt hends hk)
    · intro hhigh
      cases htruncated.symm.trans (varint_of_highUpTo hhigh)
  · rintro ⟨hends, hhigh⟩
    rcases varint_answers image position with ⟨k, hk, hk', -⟩ | ⟨hhigh', -⟩ | hanswer
    · exact absurd ⟨k, hk, hk'⟩ hends
    · exact absurd hhigh' hhigh
    · exact hanswer

/-! ## Reading is exact -/

/-- A number of `k` bytes is read exactly if `k` is at most five and the first `k` bytes are one number; it
is the sum of their groups if that fits into a word. The reader complains of the length exactly if the first
five bytes all have their high bit set, and of the end of the image in all other cases. The shortest form of
every number, and every other of at most five bytes, is read as that number. -/
theorem varint_read_exactly (image : Image) (position : Nat) :
    let bytes := image.toList.drop position
    (∀ k, (∃ n, varint image position = .ok (n, position + k)) ↔ k ≤ 5 ∧ EndsAt bytes k) ∧
      (∀ n k, varint image position = .ok (n, position + k) →
        groupSum (bytes.take k) < UInt32.size → n.toNat = groupSum (bytes.take k)) ∧
      (varint image position = .error .varintTooLong ↔ HighUpTo bytes 5) ∧
      (varint image position = .error .truncated ↔
        ¬ (∃ k ≤ 5, EndsAt bytes k) ∧ ¬ HighUpTo bytes 5) ∧
      ∀ n : UInt32, IsVarint (varintBytes n.toNat) n ∧
        ∀ form, IsVarint form n → (varintBytes n.toNat).length ≤ form.length ∧
          (form <+: bytes → varint image position = .ok (n, position + form.length)) := by
  intro bytes
  refine ⟨fun k => ⟨?_, ?_⟩, ?_, varint_tooLong_iff, varint_truncated_iff,
    fun n => ⟨isVarint_varintBytes n, ?_⟩⟩
  · rintro ⟨n, hread⟩
    obtain ⟨k', hk', hends, hnext, -⟩ := endsAt_of_varint hread
    rw [Nat.add_left_cancel hnext]
    exact ⟨hk', hends⟩
  · rintro ⟨hk, hends⟩
    exact ⟨_, varint_of_endsAt hends hk⟩
  · intro n k hread hfits
    obtain ⟨k', -, -, hnext, hvalue⟩ := endsAt_of_varint hread
    rw [hvalue, ← Nat.add_left_cancel hnext, Nat.mod_eq_of_lt hfits]
  · intro form hform
    exact ⟨hform.groups.length_varintBytes_le, fun hbytes =>
      reads_varint hform image position (holds_iff_prefix_drop.mpr hbytes)⟩

/-- A long form of the number one, with a byte of no meaning behind it. -/
theorem long_one_read :
    IsVarint [0x81, 0x80, 0x80, 0x80, 0x00] 1 ∧
      varint #[0x81, 0x80, 0x80, 0x80, 0x00, 0xFF] 0 = .ok (1, 5) := by
  have hform : IsVarint [0x81, 0x80, 0x80, 0x80, 0x00] 1 := by
    refine ⟨?_, by decide⟩
    exact .more (by decide) (.more (by decide) (.more (by decide) (.more (by decide) (.last (by decide)))))
  obtain ⟨-, -, -, -, hforms⟩ := varint_read_exactly #[0x81, 0x80, 0x80, 0x80, 0x00, 0xFF] 0
  exact ⟨hform, ((hforms 1).2 _ hform).2 ⟨[0xFF], rfl⟩⟩

/-- A number that is read is the sum of its groups exactly if the sum fits into a word, and else what is left
of it modulo the size of a word. A form is refused only for having more than five bytes, however large its
number is. -/
theorem varint_kept_iff_fits (image : Image) (position : Nat) :
    let bytes := image.toList.drop position
    (∀ n next, varint image position = .ok (n, next) → ∃ k, next = position + k ∧ EndsAt bytes k ∧
        (n.toNat = groupSum (bytes.take k) ↔ groupSum (bytes.take k) < UInt32.size) ∧
        n.toNat = groupSum (bytes.take k) % UInt32.size) ∧
      ∀ k, EndsAt bytes k → ((∃ fault, varint image position = .error fault) ↔ 5 < k) := by
  intro bytes
  refine ⟨fun n next hread => ?_, fun k hends => ⟨?_, fun hk => ?_⟩⟩
  · obtain ⟨k, -, hends, hnext, hvalue⟩ := endsAt_of_varint hread
    refine ⟨k, hnext, hends, ⟨fun heq => heq ▸ n.toNat_lt, fun hfits => ?_⟩, hvalue⟩
    rw [hvalue, Nat.mod_eq_of_lt hfits]
  · rintro ⟨fault, hfault⟩
    by_contra hk
    cases hfault.symm.trans (varint_of_endsAt hends (Nat.le_of_not_lt hk))
  · refine ⟨.varintTooLong, varint_of_highUpTo ?_⟩
    exact hends.highUpTo hk

/-- The least number that has no room in a word is read as zero, and the reader does not complain. -/
theorem word_size_read_as_zero :
    groupSum [0x80, 0x80, 0x80, 0x80, 0x10] = UInt32.size ∧
      varint #[0x80, 0x80, 0x80, 0x80, 0x10] 0 = .ok (0, 5) ∧
      (0 : UInt32).toNat ≠ groupSum [0x80, 0x80, 0x80, 0x80, 0x10] := by
  have hsum : groupSum [0x80, 0x80, 0x80, 0x80, 0x10] = UInt32.size := by
    simp only [groupSum_cons]
    rfl
  have hread : varint #[0x80, 0x80, 0x80, 0x80, 0x10] 0 = .ok (0, 5) := rfl
  obtain ⟨k, hnext, -, hkept, -⟩ :=
    (varint_kept_iff_fits #[0x80, 0x80, 0x80, 0x80, 0x10] 0).1 0 5 hread
  obtain rfl : k = 5 := by omega
  refine ⟨hsum, hread, fun heq => ?_⟩
  exact absurd (hkept.mp heq) (hsum ▸ Nat.lt_irrefl _)

end Reader

end AppSurvey.Dex
