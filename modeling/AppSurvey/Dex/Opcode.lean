/-!
# Opcodes

The named opcodes of the instruction set. They come in runs of consecutive numbers; a number between
the runs is unknown and carries the code 255.
-/

namespace AppSurvey.Dex

/-- An opcode: its number and its name. -/
structure Opcode where
  code : Nat
  name : String
  deriving DecidableEq

namespace Opcode

/-- The opcodes by runs: the first number of each run and the names from there on. -/
def runs : List (Nat × List String) :=
  [(0x00, ["Nop", "Move", "MoveFrom16", "Move16", "MoveWide", "MoveWideFrom16", "MoveWide16",
      "MoveObject", "MoveObjectFrom16", "MoveObject16", "MoveResult", "MoveResultWide",
      "MoveResultObject", "MoveException", "ReturnVoid", "Return", "ReturnWide", "ReturnObject",
      "Const4", "Const16", "Const", "ConstHigh16", "ConstWide16", "ConstWide32", "ConstWide",
      "ConstWideHigh16", "ConstString", "ConstStringJumbo", "ConstClass", "MonitorEnter",
      "MonitorExit", "CheckCast", "InstanceOf", "ArrayLength", "NewInstance", "NewArray",
      "FilledNewArray", "FilledNewArrayRange", "FillArrayData", "Throw", "Goto", "Goto16",
      "Goto32", "PackedSwitch", "SparseSwitch", "CmplFloat", "CmpgFloat", "CmplDouble",
      "CmpgDouble", "CmpLong", "IfEq", "IfNe", "IfLt", "IfGe", "IfGt", "IfLe", "IfEqz", "IfNez",
      "IfLtz", "IfGez", "IfGtz", "IfLez"]),
    (0x44, ["Aget", "AgetWide", "AgetObject", "AgetBoolean", "AgetByte", "AgetChar", "AgetShort",
      "Aput", "AputWide", "AputObject", "AputBoolean", "AputByte", "AputChar", "AputShort",
      "Iget", "IgetWide", "IgetObject", "IgetBoolean", "IgetByte", "IgetChar", "IgetShort",
      "Iput", "IputWide", "IputObject", "IputBoolean", "IputByte", "IputChar", "IputShort",
      "Sget", "SgetWide", "SgetObject", "SgetBoolean", "SgetByte", "SgetChar", "SgetShort",
      "Sput", "SputWide", "SputObject", "SputBoolean", "SputByte", "SputChar", "SputShort",
      "InvokeVirtual", "InvokeSuper", "InvokeDirect", "InvokeStatic", "InvokeInterface"]),
    (0x74, ["InvokeVirtualRange", "InvokeSuperRange", "InvokeDirectRange", "InvokeStaticRange",
      "InvokeInterfaceRange"]),
    (0x7B, ["NegInt", "NotInt", "NegLong", "NotLong", "NegFloat", "NegDouble", "IntToLong",
      "IntToFloat", "IntToDouble", "LongToInt", "LongToFloat", "LongToDouble", "FloatToInt",
      "FloatToLong", "FloatToDouble", "DoubleToInt", "DoubleToLong", "DoubleToFloat", "IntToByte",
      "IntToChar", "IntToShort", "AddInt", "SubInt", "MulInt", "DivInt", "RemInt", "AndInt",
      "OrInt", "XorInt", "ShlInt", "ShrInt", "UshrInt", "AddLong", "SubLong", "MulLong",
      "DivLong", "RemLong", "AndLong", "OrLong", "XorLong", "ShlLong", "ShrLong", "UshrLong",
      "AddFloat", "SubFloat", "MulFloat", "DivFloat", "RemFloat", "AddDouble", "SubDouble",
      "MulDouble", "DivDouble", "RemDouble", "AddInt2addr", "SubInt2addr", "MulInt2addr",
      "DivInt2addr", "RemInt2addr", "AndInt2addr", "OrInt2addr", "XorInt2addr", "ShlInt2addr",
      "ShrInt2addr", "UshrInt2addr", "AddLong2addr", "SubLong2addr", "MulLong2addr",
      "DivLong2addr", "RemLong2addr", "AndLong2addr", "OrLong2addr", "XorLong2addr",
      "ShlLong2addr", "ShrLong2addr", "UshrLong2addr", "AddFloat2addr", "SubFloat2addr",
      "MulFloat2addr", "DivFloat2addr", "RemFloat2addr", "AddDouble2addr", "SubDouble2addr",
      "MulDouble2addr", "DivDouble2addr", "RemDouble2addr", "AddIntLit16", "RsubInt",
      "MulIntLit16", "DivIntLit16", "RemIntLit16", "AndIntLit16", "OrIntLit16", "XorIntLit16",
      "AddIntLit8", "RsubIntLit8", "MulIntLit8", "DivIntLit8", "RemIntLit8", "AndIntLit8",
      "OrIntLit8", "XorIntLit8", "ShlIntLit8", "ShrIntLit8", "UshrIntLit8"])]

/-- The name of an opcode in a list of runs. -/
def nameIn? (code : Nat) : List (Nat × List String) → Option String
  | [] => none
  | (first, names) :: rest =>
      if code < first then none
      else (names[code - first]?).orElse fun _ => nameIn? code rest

/-- The opcode of a number. -/
def ofNat (code : Nat) : Opcode :=
  match nameIn? code runs with
  | some name => { code, name }
  | none => { code := 255, name := "Unknown" }

end Opcode

end AppSurvey.Dex
