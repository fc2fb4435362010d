import AppSurvey.Dex.Instruction
import AppSurvey.Dex.Signature

/-!
# Expressions

Following the constants through the registers of a method shows what the calls in it are given.
`Registers.run` goes through a method's code and lists the calls worth reporting, each written as an
expression. Only loads change a register; what a call returns is not followed.
-/

namespace AppSurvey.Dex

open Text

/-- What is known about the content of a register. -/
inductive RegisterValue where
  | unknown
  | int (value : Int)
  | string (text : String)
  | call (receiver : RegisterValue) (signature : Signature) (args : List RegisterValue)
  | field (receiver : RegisterValue) (name type : String)
  | this
  | param (index : Nat)
  deriving Inhabited

namespace RegisterValue

mutual

/-- The value as an expression. Zero and one are written as truth values. -/
def text : RegisterValue → String
  | .unknown => "?"
  | .int value => if value = 0 then "false" else if value = 1 then "true" else toString value
  | .string text => "\"" ++ text ++ "\""
  | .call receiver signature args =>
      text receiver ++ "." ++ signature.methodName ++ "(" ++ commaList (texts args) ++ ")"
  | .field receiver name _ => text receiver ++ "." ++ name
  | .this => "this"
  | .param index => s!"param{index}"

/-- The values as expressions. -/
def texts : List RegisterValue → List String
  | [] => []
  | value :: rest => text value :: texts rest

end

/-- The truth value that a number stands for. -/
def boolean? : RegisterValue → Option Bool
  | .int 0 => some false
  | .int 1 => some true
  | _ => none

end RegisterValue

/-- A call found in the code of a method. -/
structure Expression where
  text : String
  valueType : String
  isMethodCall : Bool
  signature : Option String
  deriving DecidableEq

namespace Expression

/-- Does the expression speak of the web view? -/
def isWebView (expression : Expression) : Bool :=
  includes expression.text "WebView" || includes expression.text "WebSettings"

/-- Does the expression touch what a web page may do? -/
def isSecurityRelevant (expression : Expression) : Bool :=
  includesAny expression.text ["JavaScript", "setAllowFileAccess", "setMixedContentMode"]

def summary (expression : Expression) : String :=
  s!"ReconstructedExpression(expression='{expression.text}', type='{expression.valueType}')"

end Expression

/-- The registers that have been written, each once. -/
structure Registers where
  entries : List (UInt8 × RegisterValue)

namespace Registers

/-- No register has been written. -/
def empty : Registers := ⟨[]⟩

/-- The value last written to a register. -/
def get? (registers : Registers) (register : UInt8) : Option RegisterValue :=
  registers.entries.lookup register

/-- Writes a register. -/
def set (registers : Registers) (register : UInt8) (value : RegisterValue) : Registers :=
  ⟨(register, value) :: registers.entries.filter fun entry => entry.1 != register⟩

/-- What is known about a register; nothing before it is written. -/
def value (registers : Registers) (register : UInt8) : RegisterValue :=
  (registers.get? register).getD .unknown

/-- The call of a method on the values of the registers: the first is the receiver, the others are
the arguments. -/
def callValue (registers : Registers) (signature : Signature) (receiver : UInt8)
    (args : List UInt8) : RegisterValue :=
  .call (registers.value receiver) signature (args.map registers.value)

/-- The call as an expression. -/
def callExpression (registers : Registers) (signature : Signature) (receiver : UInt8)
    (args : List UInt8) : Expression :=
  { text := (registers.callValue signature receiver args).text
    valueType := signature.returnType
    isMethodCall := true
    signature := some signature.full }

/-- Is a call worth reporting? Calls of the web view are, and calls that are given parts of it. -/
def isSignificant (signature : Signature) (expression : Expression) : Bool :=
  signature.enablesScripts || signature.isWebView || expression.isWebView

/-- The expression of a call, if its method is known, it has an operand and it is worth reporting. -/
def report? (file : File) (registers : Registers) (args : List UInt8) (method : UInt16) :
    Option Expression :=
  match file.resolve method.toNat, args with
  | .ok signature, receiver :: rest =>
      let expression := registers.callExpression signature receiver rest
      if isSignificant signature expression then some expression else none
  | _, _ => none

/-- What a register holds after a string was loaded into it. -/
def stringValue (file : File) (index : UInt16) : RegisterValue :=
  match file.string index.toNat with
  | .ok text => .string text
  | .error _ => .unknown

/-- The registers after an instruction. -/
def step (file : File) (registers : Registers) : Instruction → Registers
  | .load _ dest value => registers.set dest (.int value)
  | .loadString dest index => registers.set dest (stringValue file index)
  | _ => registers

/-- The expression that an instruction gives rise to. -/
def emit? (file : File) (registers : Registers) : Instruction → Option Expression
  | .call _ args method => report? file registers args method
  | _ => none

/-- Goes through a list of instructions: the registers afterwards, and the expressions in order. -/
def follow (file : File) (registers : Registers) : List Instruction → Registers × List Expression
  | [] => (registers, [])
  | instruction :: rest =>
      let (last, expressions) := follow file (registers.step file instruction) rest
      (last, (registers.emit? file instruction).toList ++ expressions)

/-- Goes through the code of a method. -/
def run (file : File) (registers : Registers) (words : List UInt16) :
    Registers × List Expression :=
  registers.follow file (Instruction.decode words)

/-- Goes through several methods, one after the other, with the registers kept from each to the
next. -/
def runAll (file : File) (registers : Registers) : List (List UInt16) → List (List Expression)
  | [] => []
  | words :: rest =>
      let (next, expressions) := registers.run file words
      expressions :: runAll file next rest

end Registers

end AppSurvey.Dex
