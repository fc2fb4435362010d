/-!
# Instructions

The code of a method is a list of 16-bit words. The first word of an instruction holds its opcode in
the low byte. Decoded are the loads of constants and strings and the calls; every other word stands
for itself. Words missing at the end of the code read as zero.

Every instruction knows its `width`, and decoding goes on behind it, so the widths say how the list
of words is cut into instructions.
-/

namespace AppSurvey.Dex

/-- The ways in which a call finds its target. -/
inductive CallKind where
  | virtual
  | super
  | direct
  | static
  | interface
  deriving DecidableEq

/-- The kinds of call whose arguments may be given as a range of registers. -/
inductive RangeKind where
  | virtual
  | static
  deriving DecidableEq

/-- The encodings of an integer load, by the space for the number. -/
inductive LoadWidth where
  | nibble
  | half
  | full
  deriving DecidableEq

/-- A decoded instruction. -/
inductive Instruction where
  /-- Loads a number into a register. -/
  | load (width : LoadWidth) (dest : UInt8) (value : Int)
  /-- Loads the string of a number into a register. -/
  | loadString (dest : UInt8) (index : UInt16)
  /-- Calls a method with the listed registers. -/
  | call (kind : CallKind) (args : List UInt8) (method : UInt16)
  /-- Calls a method with `count` registers from `first` on. -/
  | callRange (kind : RangeKind) (count : UInt8) (first method : UInt16)
  /-- Any other word. -/
  | other (word : UInt16)
  deriving DecidableEq

namespace Instruction

/-- The opcode in the low byte of a word. -/
def opcode (word : UInt16) : UInt8 :=
  (word.toNat % 256).toUInt8

/-- The high byte of a word. -/
def highByte (word : UInt16) : UInt8 :=
  (word.toNat / 256).toUInt8

/-- The four bits of a word that begin at bit `4 * i`. -/
def nibble (word : UInt16) (i : Nat) : Nat :=
  word.toNat / Nat.pow 16 i % 16

/-- The registers of a call: the first is in the word of the opcode, the next four are in the last
word, lowest bits first. A sixth and later one can only be register zero. -/
def argument (word registers : UInt16) : Nat → UInt8
  | 0 => (nibble word 2).toUInt8
  | i + 1 => if i < 4 then (nibble registers i).toUInt8 else 0

/-- The words an instruction takes up. -/
def width : Instruction → Nat
  | .load .nibble _ _ => 1
  | .load .half _ _ => 2
  | .load .full _ _ => 3
  | .loadString _ _ => 2
  | .call _ _ _ => 3
  | .callRange _ _ _ _ => 3
  | .other _ => 1

theorem width_pos (instruction : Instruction) : 0 < instruction.width := by
  unfold width
  split <;> decide

/-- The call with listed registers that begins with `word`. -/
def readCall (kind : CallKind) (word : UInt16) (operands : List UInt16) : Instruction :=
  let registers := operands.getD 1 0
  .call kind ((List.range (nibble word 3)).map (argument word registers)) (operands.getD 0 0)

/-- The call with a range of registers that begins with `word`. -/
def readRange (kind : RangeKind) (word : UInt16) (operands : List UInt16) : Instruction :=
  .callRange kind (highByte word) (operands.getD 1 0) (operands.getD 0 0)

/-- The number in two operand words, zero unless both are there. -/
def fullValue : List UInt16 → Int
  | low :: high :: _ => Int.bmod (low.toNat + 65536 * high.toNat) 0x100000000
  | _ => 0

/-- The instruction that begins with `word`, given the words behind it. -/
def read (word : UInt16) (operands : List UInt16) : Instruction :=
  match (opcode word).toNat with
  | 0x12 => .load .nibble (nibble word 2).toUInt8 (Int.bmod (nibble word 3) 16)
  | 0x13 => .load .half (highByte word) (Int.bmod (operands.getD 0 0).toNat 0x10000)
  | 0x14 => .load .full (highByte word) (fullValue operands)
  | 0x1A => .loadString (highByte word) (operands.getD 0 0)
  | 0x6E => readCall .virtual word operands
  | 0x6F => readCall .super word operands
  | 0x70 => readCall .direct word operands
  | 0x71 => readCall .static word operands
  | 0x72 => readCall .interface word operands
  | 0x74 => readRange .virtual word operands
  | 0x77 => readRange .static word operands
  | _ => .other word

/-- The instructions of a method. -/
def decode : List UInt16 → List Instruction
  | [] => []
  | word :: operands =>
      let instruction := read word operands
      instruction :: decode (operands.drop (instruction.width - 1))
termination_by words => words.length
decreasing_by simp only [List.length_drop, List.length_cons]; omega

/-- The number that an instruction loads. -/
def value? : Instruction → Option Int
  | .load _ _ value => some value
  | _ => none

/-- The number of the method that an instruction calls. -/
def calledMethod? : Instruction → Option UInt16
  | .call _ _ method => some method
  | .callRange _ _ _ method => some method
  | _ => none

/-- The numbers that a method loads, in order. -/
def constants (words : List UInt16) : List Int :=
  (decode words).filterMap value?

/-- The numbers of the methods that a method calls, in order. -/
def methodCalls (words : List UInt16) : List UInt16 :=
  (decode words).filterMap calledMethod?

end Instruction

end AppSurvey.Dex
