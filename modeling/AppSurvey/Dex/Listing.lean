import AppSurvey.Dex.Instruction
import AppSurvey.Text.Hex
import AppSurvey.Text.Search

/-!
# Instructions as text and as records

An instruction is shown in two ways: `Instruction.text` is one line of assembly, and `Listing` is a
flat record with the parts of the instruction that are present.
-/

namespace AppSurvey.Dex

open Text

def CallKind.mnemonic : CallKind → String
  | .virtual => "invoke-virtual"
  | .super => "invoke-super"
  | .direct => "invoke-direct"
  | .static => "invoke-static"
  | .interface => "invoke-interface"

def RangeKind.mnemonic : RangeKind → String
  | .virtual => "invoke-virtual/range"
  | .static => "invoke-static/range"

def LoadWidth.mnemonic : LoadWidth → String
  | .nibble => "const/4"
  | .half => "const/16"
  | .full => "const"

namespace Instruction

/-- The registers of a range call. A range that runs past register 65535 has none. -/
def rangeRegisters (count : UInt8) (first : UInt16) : List UInt8 :=
  let stop := (first.toNat + count.toNat) % 65536
  (List.range' first.toNat (stop - first.toNat)).map fun r => r.toUInt8

/-- The last register of a range call, as a 16-bit number. -/
def rangeLast (count : UInt8) (first : UInt16) : Nat :=
  (first.toNat + count.toNat + 65535) % 65536

/-- The registers of a call between braces. -/
def registerList (args : List UInt8) : String :=
  "\x7bv" ++ String.intercalate ", v" (args.map fun r => toString r.toNat) ++ "\x7d"

/-- The instruction as a line of assembly. -/
def text : Instruction → String
  | .load width dest value => s!"{width.mnemonic} v{dest.toNat}, #{value}"
  | .loadString dest index => s!"const-string v{dest.toNat}, string@{index.toNat}"
  | .call kind args method =>
      s!"{kind.mnemonic} {registerList args}, method@{method.toNat}"
  | .callRange kind count first method =>
      kind.mnemonic ++ s!" \x7bv{first.toNat} .. v{rangeLast count first}\x7d"
        ++ s!", method@{method.toNat}"
  | .other word => s!"unknown (opcode: 0x{hex 2 (opcode word).toNat})"

/-- The word of an instruction that is not decoded. -/
def data? : Instruction → Option (List UInt16)
  | .other word => some [word]
  | _ => none

end Instruction

/-- The parts of an instruction, each present where the instruction has it. -/
structure Listing where
  opcode : String
  dest : Option UInt8 := none
  value : Option Int := none
  string : Option UInt16 := none
  method : Option UInt16 := none
  args : List UInt8 := []
  raw : String

namespace Listing

/-- A line with an opcode and its operands. -/
def line (opcode : String) (operands : List String) : String :=
  opcode ++ " " ++ commaList operands

/-- The record of an instruction. A range of registers is shown with both ends, counted with 16
bits. -/
def ofInstruction : Instruction → Listing
  | .load width dest value =>
      { opcode := width.mnemonic, dest, value,
        raw := line width.mnemonic [s!"v{dest.toNat}", s!"#{value}"] }
  | .loadString dest index =>
      { opcode := "const-string", dest, string := index,
        raw := line "const-string" [s!"v{dest.toNat}", s!"string@{index.toNat}"] }
  | .call kind args method =>
      { opcode := kind.mnemonic, method, args,
        raw := line kind.mnemonic [Instruction.registerList args, s!"method@{method.toNat}"] }
  | .callRange kind count first method =>
      let last := first + count.toUInt16 - 1
      { opcode := kind.mnemonic, method, args := Instruction.rangeRegisters count first,
        raw := line kind.mnemonic
          [s!"\x7bv{first.toNat} .. v{last.toNat}\x7d", s!"method@{method.toNat}"] }
  | .other word =>
      let code := hex 2 (Instruction.opcode word).toNat
      { opcode := s!"unknown(0x{code})", raw := s!"unknown (opcode: 0x{code})" }

/-- The records of a method. -/
def decode (words : List UInt16) : List Listing :=
  (Instruction.decode words).map ofInstruction

/-- Does the instruction load a constant? -/
def isConst (listing : Listing) : Bool :=
  startsWith listing.opcode "const"

/-- Is the instruction a call? -/
def isInvoke (listing : Listing) : Bool :=
  startsWith listing.opcode "invoke"

/-- The truth value that the shortest load stands for. -/
def boolean? (listing : Listing) : Option Bool :=
  if listing.opcode = LoadWidth.nibble.mnemonic then listing.value.map (· ≠ 0) else none

end Listing

end AppSurvey.Dex
