import AppSurvey.Proofs.Dex.Instruction

/-!
# The registers of a call

A call lists up to five registers. The instruction set stores the first four in the third word,
lowest bits first, and the fifth in the first word, between the opcode and the count. Decoding takes
the one in the first word for the first register, so the registers of a call come out shifted by one
place.
-/

namespace AppSurvey.Dex

open Instruction

/-- A call with listed registers, as the instruction set has it. -/
structure ListedCall where
  kind : CallKind
  registers : List UInt8
  method : UInt16
  length_le : registers.length ≤ 5
  small : ∀ register ∈ registers, register.toNat < 16

namespace ListedCall

/-- The register in a place of the list, zero in a place that is not used. -/
def registerAt (call : ListedCall) (place : Nat) : UInt8 :=
  call.registers.getD place 0

/-- The count and the fifth register. -/
def countByte (call : ListedCall) : UInt8 :=
  (16 * call.registers.length + (call.registerAt 4).toNat).toUInt8

/-- The first four registers. -/
def registerWord (call : ListedCall) : UInt16 :=
  ((call.registerAt 0).toNat + 16 * (call.registerAt 1).toNat + 256 * (call.registerAt 2).toNat +
    4096 * (call.registerAt 3).toNat).toUInt16

/-- The three words of a call. -/
def words (call : ListedCall) : List UInt16 :=
  [firstWord call.kind.code call.countByte, call.method, call.registerWord]

theorem registerAt_lt (call : ListedCall) (place : Nat) : (call.registerAt place).toNat < 16 := by
  rw [registerAt, List.getD_eq_getElem?_getD]
  cases hregister : call.registers[place]? with
  | none => decide
  | some register => exact call.small register (List.mem_of_getElem? hregister)

theorem toNat_countByte (call : ListedCall) :
    call.countByte.toNat = 16 * call.registers.length + (call.registerAt 4).toNat := by
  have hlength := call.length_le
  have hfifth := call.registerAt_lt 4
  exact UInt8.toNat_ofNat_of_lt'
    (show 16 * call.registers.length + (call.registerAt 4).toNat < 256 by omega)

theorem nibble_firstWord (call : ListedCall) :
    nibble (firstWord call.kind.code call.countByte) 2 = (call.registerAt 4).toNat ∧
      nibble (firstWord call.kind.code call.countByte) 3 = call.registers.length := by
  have hcode := call.kind.code.toNat_lt
  have hlength := call.length_le
  have hfifth := call.registerAt_lt 4
  simp only [nibble, toNat_firstWord, toNat_countByte, Nat.pow_eq]
  omega

theorem nibble_registerWord (call : ListedCall) {place : Nat} (hplace : place < 4) :
    nibble call.registerWord place = (call.registerAt place).toNat := by
  have hzero := call.registerAt_lt 0
  have hone := call.registerAt_lt 1
  have htwo := call.registerAt_lt 2
  have hthree := call.registerAt_lt 3
  have hword : call.registerWord.toNat = (call.registerAt 0).toNat +
      16 * (call.registerAt 1).toNat + 256 * (call.registerAt 2).toNat +
      4096 * (call.registerAt 3).toNat :=
    UInt16.toNat_ofNat_of_lt' (show _ < 65536 by omega)
  simp only [nibble, hword, Nat.pow_eq]
  match place, hplace with
  | 0, _ | 1, _ | 2, _ | 3, _ => omega

/-- The registers that decoding finds in the words: the one in the first word comes first, and the
last of the others is left out. -/
def shifted (call : ListedCall) : List UInt8 :=
  (call.registerAt 4 :: call.registers).dropLast

theorem argument_words (call : ListedCall) {place : Nat} (hplace : place < call.registers.length) :
    argument (firstWord call.kind.code call.countByte) call.registerWord place =
      (call.registerAt 4 :: call.registers).getD place 0 := by
  have hlength := call.length_le
  cases place with
  | zero =>
      rw [argument, call.nibble_firstWord.1]
      exact UInt8.ofNat_toNat
  | succ place =>
      rw [argument, if_pos (by omega), call.nibble_registerWord (by omega)]
      exact UInt8.ofNat_toNat

theorem readCall_words (call : ListedCall) :
    readCall call.kind (firstWord call.kind.code call.countByte) [call.method, call.registerWord] =
      .call call.kind call.shifted call.method := by
  have hargs : (List.range call.registers.length).map
      (argument (firstWord call.kind.code call.countByte) call.registerWord) = call.shifted := by
    apply List.ext_getElem
    · simp [shifted]
    · intro place hplace _
      rw [List.length_map, List.length_range] at hplace
      have hbound : place < (call.registerAt 4 :: call.registers).length := Nat.lt_succ_of_lt hplace
      simp only [List.getElem_map, List.getElem_range, shifted, List.getElem_dropLast]
      rw [call.argument_words hplace, List.getD_eq_getElem?_getD, List.getElem?_eq_getElem hbound,
        Option.getD_some]
  rw [readCall, call.nibble_firstWord.2]
  simp [hargs]

theorem decode_words (call : ListedCall) :
    decode call.words = [.call call.kind call.shifted call.method] := by
  have hshape : shape (firstWord call.kind.code call.countByte) = .call call.kind :=
    shape_firstWord_of_code? rfl _
  rw [words, decode_cons, read_eq, hshape]
  simp [Shape.instruction, Shape.width, call.readCall_words, decode]

theorem dropLast_cons_eq_iff {first : UInt8} {registers : List UInt8} :
    (first :: registers).dropLast = registers ↔ ∀ register ∈ registers, register = first := by
  induction registers generalizing first with
  | nil => simp
  | cons second rest ih =>
      rw [List.dropLast_cons_cons, List.cons.injEq, ih, List.forall_mem_cons]
      constructor
      · rintro ⟨rfl, hrest⟩
        exact ⟨rfl, hrest⟩
      · rintro ⟨rfl, hrest⟩
        exact ⟨rfl, hrest⟩

end ListedCall

/-- The words of a call are decoded as one call of its kind and method, with its registers shifted by
one place. They come out as they were listed only where all of them are the fifth, or register zero
if there is no fifth. -/
theorem decode_listedCall_iff_registers_agree (call : ListedCall) :
    decode call.words = [.call call.kind call.shifted call.method] ∧
      (decode call.words = [.call call.kind call.registers call.method] ↔
        ∀ register ∈ call.registers, register = call.registerAt 4) := by
  refine ⟨call.decode_words, ?_⟩
  rw [call.decode_words]
  simp [ListedCall.shifted, ListedCall.dropLast_cons_eq_iff]

/-- A call on register one with register two as its argument. -/
def callOnOne : ListedCall where
  kind := .virtual
  registers := [1, 2]
  method := 0x42
  length_le := by decide
  small := List.forall_mem_cons.mpr ⟨by decide, List.forall_mem_singleton.mpr (by decide)⟩

/-- The receiver of the call is taken from register zero, which is not in the list. -/
theorem callOnOne_decoded_on_zero :
    callOnOne.words = [0x206E, 0x42, 0x21] ∧
      decode callOnOne.words = [.call .virtual [0, 1] 0x42] ∧
      decode callOnOne.words ≠ [.call .virtual [1, 2] 0x42] := by
  obtain ⟨hdecode, hagree⟩ := decode_listedCall_iff_registers_agree callOnOne
  refine ⟨rfl, hdecode, fun hlisted => ?_⟩
  have hsame := hagree.mp hlisted 1 List.mem_cons_self
  exact absurd hsame (by decide)

end AppSurvey.Dex
