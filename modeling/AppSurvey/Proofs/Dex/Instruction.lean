import AppSurvey.Dex.Instruction

/-!
# How code is cut into instructions

Decoding goes over the words of a method from one instruction to the next. How many words it takes
for an instruction depends on the opcode alone. Words are `Aligned` if the last instruction in them
ends where they end; only then are the words behind them decoded as if they stood alone
(`decode_append`).
-/

namespace AppSurvey.Dex

/-- The opcode of a call with listed registers. -/
def CallKind.code : CallKind → UInt8
  | .virtual => 0x6E
  | .super => 0x6F
  | .direct => 0x70
  | .static => 0x71
  | .interface => 0x72

/-- The opcode of a call with a range of registers. -/
def RangeKind.code : RangeKind → UInt8
  | .virtual => 0x74
  | .static => 0x77

namespace Instruction

/-! ## The first word of an instruction -/

/-- The first word of an instruction: the opcode, and a byte of operands above it. -/
def firstWord (code high : UInt8) : UInt16 :=
  (code.toNat + 256 * high.toNat).toUInt16

theorem toNat_firstWord (code high : UInt8) :
    (firstWord code high).toNat = code.toNat + 256 * high.toNat := by
  have hcode := code.toNat_lt
  have hhigh := high.toNat_lt
  exact UInt16.toNat_ofNat_of_lt' (show code.toNat + 256 * high.toNat < 65536 by omega)

@[simp] theorem opcode_firstWord (code high : UInt8) : opcode (firstWord code high) = code := by
  have hcode := code.toNat_lt
  rw [opcode, toNat_firstWord, Nat.add_mul_mod_self_left, Nat.mod_eq_of_lt hcode]
  exact UInt8.ofNat_toNat

@[simp] theorem highByte_firstWord (code high : UInt8) : highByte (firstWord code high) = high := by
  have hcode := code.toNat_lt
  rw [highByte, toNat_firstWord, show (code.toNat + 256 * high.toNat) / 256 = high.toNat by omega]
  exact UInt8.ofNat_toNat

theorem firstWord_opcode_highByte (word : UInt16) : firstWord (opcode word) (highByte word) = word := by
  have hword := word.toNat_lt
  have hopcode : (opcode word).toNat = word.toNat % 256 := by
    rw [opcode]
    exact UInt8.toNat_ofNat_of_lt' (Nat.mod_lt _ (by decide))
  have hhigh : (highByte word).toNat = word.toNat / 256 := by
    rw [highByte]
    exact UInt8.toNat_ofNat_of_lt' (show word.toNat / 256 < 256 by omega)
  rw [← UInt16.toNat_inj, toNat_firstWord, hopcode, hhigh]
  omega

theorem toNat_nibble (word : UInt16) (place : Nat) :
    (nibble word place).toUInt8.toNat = nibble word place := by
  have hnibble : nibble word place < 16 := Nat.mod_lt _ (by decide)
  exact UInt8.toNat_ofNat_of_lt' (show nibble word place < 256 by omega)

/-! ## Shapes -/

/-- What the opcode says about an instruction. -/
inductive Shape where
  | load (width : LoadWidth)
  | string
  | call (kind : CallKind)
  | range (kind : RangeKind)
  | other
  deriving DecidableEq

namespace Shape

/-- The shape that belongs to an opcode. -/
def ofCode : Nat → Shape
  | 0x12 => .load .nibble
  | 0x13 => .load .half
  | 0x14 => .load .full
  | 0x1A => .string
  | 0x6E => .call .virtual
  | 0x6F => .call .super
  | 0x70 => .call .direct
  | 0x71 => .call .static
  | 0x72 => .call .interface
  | 0x74 => .range .virtual
  | 0x77 => .range .static
  | _ => .other

/-- The words of an instruction of the shape. -/
def width : Shape → Nat
  | .load .nibble => 1
  | .load .half => 2
  | .load .full => 3
  | .string => 2
  | .call _ => 3
  | .range _ => 3
  | .other => 1

/-- The instruction of the shape that begins with `word`. -/
def instruction (word : UInt16) (operands : List UInt16) : Shape → Instruction
  | .load .nibble => .load .nibble (nibble word 2).toUInt8 (Int.bmod (nibble word 3) 16)
  | .load .half => .load .half (highByte word) (Int.bmod (operands.getD 0 0).toNat 0x10000)
  | .load .full => .load .full (highByte word) (fullValue operands)
  | .string => .loadString (highByte word) (operands.getD 0 0)
  | .call kind => readCall kind word operands
  | .range kind => readRange kind word operands
  | .other => .other word

/-- The opcode of a shape, unless it is that of many. -/
def code? : Shape → Option UInt8
  | .load .nibble => some 0x12
  | .load .half => some 0x13
  | .load .full => some 0x14
  | .string => some 0x1A
  | .call kind => some kind.code
  | .range kind => some kind.code
  | .other => none

theorem ofCode_of_code? {shape : Shape} {code : UInt8} (hcode : shape.code? = some code) :
    ofCode code.toNat = shape := by
  cases shape with
  | load width => cases width <;> cases hcode <;> rfl
  | string => cases hcode; rfl
  | call kind => cases kind <;> cases hcode <;> rfl
  | range kind => cases kind <;> cases hcode <;> rfl
  | other => cases hcode

theorem eq_of_code?_ofCode {code : Nat} {known : UInt8} (hcode : (ofCode code).code? = some known) :
    code = known.toNat := by
  fun_cases ofCode code
  case case12 => simp [ofCode, code?] at hcode
  all_goals cases hcode; rfl

end Shape

/-- The shape of the instruction that begins with `word`. -/
def shape (word : UInt16) : Shape :=
  .ofCode (opcode word).toNat

theorem shape_firstWord_of_code? {known : Shape} {code : UInt8} (hcode : known.code? = some code)
    (high : UInt8) : shape (firstWord code high) = known := by
  rw [shape, opcode_firstWord, Shape.ofCode_of_code? hcode]

/-- A word whose shape has an opcode of its own consists of this opcode and the high byte. -/
theorem eq_firstWord_of_code? {word : UInt16} {code : UInt8} (hcode : (shape word).code? = some code) :
    word = firstWord code (highByte word) := by
  have hopcode : opcode word = code := UInt8.toNat_inj.mp (Shape.eq_of_code?_ofCode hcode)
  rw [← hopcode, firstWord_opcode_highByte]

theorem read_eq (word : UInt16) (operands : List UInt16) :
    read word operands = (shape word).instruction word operands := by
  unfold read shape
  generalize (opcode word).toNat = code
  split
  case h_12 => simp only [Shape.ofCode, Shape.instruction]
  all_goals rfl

theorem width_read (word : UInt16) (operands : List UInt16) :
    (read word operands).width = (shape word).width := by
  rw [read_eq]
  cases shape word with
  | load width => cases width <;> rfl
  | _ => rfl

/-- Reading looks at no word behind the instruction. -/
theorem read_append {word : UInt16} {operands : List UInt16}
    (hlength : (shape word).width ≤ operands.length + 1) (rest : List UInt16) :
    read word (operands ++ rest) = read word operands := by
  rw [read_eq, read_eq]
  cases hshape : shape word with
  | other => rfl
  | load width =>
      rw [hshape] at hlength
      cases width with
      | nibble => rfl
      | half =>
          match operands, hlength with
          | _ :: _, _ => rfl
      | full =>
          match operands, hlength with
          | _ :: _ :: _, _ => rfl
  | string =>
      rw [hshape] at hlength
      match operands, hlength with
      | _ :: _, _ => rfl
  | call kind =>
      rw [hshape] at hlength
      match operands, hlength with
      | _ :: _ :: _, _ => rfl
  | range kind =>
      rw [hshape] at hlength
      match operands, hlength with
      | _ :: _ :: _, _ => rfl

/-! ## The words of one instruction after the other -/

theorem decode_cons (word : UInt16) (operands : List UInt16) :
    decode (word :: operands) =
      read word operands :: decode (operands.drop ((shape word).width - 1)) := by
  rw [decode, width_read]

/-- The last instruction in the words ends where they end. -/
inductive Aligned : List UInt16 → Prop
  | nil : Aligned []
  | cons {word : UInt16} {operands : List UInt16}
      (hlength : (shape word).width ≤ operands.length + 1)
      (hrest : Aligned (operands.drop ((shape word).width - 1))) : Aligned (word :: operands)

theorem decode_append {words : List UInt16} (haligned : Aligned words) (rest : List UInt16) :
    decode (words ++ rest) = decode words ++ decode rest := by
  induction haligned with
  | nil => simp [decode]
  | @cons word operands hlength _ ih =>
      have hdrop : (shape word).width - 1 ≤ operands.length := by omega
      rw [List.cons_append, decode_cons, decode_cons, read_append hlength,
        List.drop_append_of_le_length hdrop, ih, List.cons_append]

end Instruction

end AppSurvey.Dex
