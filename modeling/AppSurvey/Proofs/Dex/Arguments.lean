import AppSurvey.Proofs.Dex.Layout
import AppSurvey.Proofs.Dex.ListedCall
import AppSurvey.Proofs.Dex.Report

/-!
# The arguments of a call

A call of an instance method has a receiver and then one operand for each parameter; a static call has the
parameters only. An expression takes the first operand for the receiver whatever the kind of the call, and passes
the others. So it passes the parameters of an instance call, and all but the first of a static one. `Registers.Passes`
compares what is passed with the operands that hold the parameters.
-/

namespace AppSurvey.Dex

open Instruction

/-- How many operands of a call stand in front of those for the parameters. -/
def CallKind.receiverCount : CallKind → Nat
  | .static => 0
  | _ => 1

theorem CallKind.receiverCount_of_ne_static {kind : CallKind} (hkind : kind ≠ .static) :
    kind.receiverCount = 1 := by
  cases kind with
  | static => exact absurd rfl hkind
  | _ => rfl

/-- A call of a method that is known, with the operands that its kind and its parameters require. -/
structure File.FittingCall (file : File) where
  kind : CallKind
  operands : List UInt8
  method : UInt16
  signature : Signature
  resolved : file.resolve method.toNat = .ok signature
  fits : operands.length = signature.parameters.length + kind.receiverCount

namespace File.FittingCall

variable {file : File}

/-- The operands that hold the parameters, in order. -/
def parameterOperands (call : file.FittingCall) : List UInt8 :=
  call.operands.drop call.kind.receiverCount

theorem length_parameterOperands (call : file.FittingCall) :
    call.parameterOperands.length = call.signature.parameters.length := by
  have hfits := call.fits
  rw [parameterOperands, List.length_drop]
  omega

theorem parameterOperands_of_static (call : file.FittingCall) (hkind : call.kind = .static) :
    call.parameterOperands = call.operands := by
  rw [parameterOperands, hkind]
  rfl

theorem exists_receiver (call : file.FittingCall) (hkind : call.kind ≠ .static) :
    ∃ receiver, call.operands = receiver :: call.parameterOperands := by
  have hfits := call.fits
  rw [parameterOperands, CallKind.receiverCount_of_ne_static hkind] at *
  obtain ⟨receiver, rest, hoperands⟩ := List.exists_cons_of_length_pos
    (show 0 < call.operands.length by omega)
  exact ⟨receiver, by rw [hoperands]; rfl⟩

end File.FittingCall

/-- The values that a call passes besides its receiver. -/
def RegisterValue.passed : RegisterValue → List RegisterValue
  | .call _ _ args => args
  | _ => []

namespace Registers

/-- The call that is written as an expression, whether or not it is reported. -/
def rendered? (file : File) (registers : Registers) (operands : List UInt8) (method : UInt16) :
    Option RegisterValue :=
  match file.resolve method.toNat, operands with
  | .ok signature, receiver :: rest => some (registers.callValue signature receiver rest)
  | _, _ => none

/-- There is such a call, and it passes the values of these registers. -/
def Passes (file : File) (registers : Registers) (operands : List UInt8) (method : UInt16)
    (arguments : List UInt8) : Prop :=
  ∃ value, registers.rendered? file operands method = some value ∧
    value.passed = arguments.map registers.value

section Rendering

variable {file : File} {registers : Registers} {method : UInt16} {signature : Signature}

theorem rendered?_cons (hresolve : file.resolve method.toNat = .ok signature) (receiver : UInt8)
    (rest : List UInt8) :
    registers.rendered? file (receiver :: rest) method =
      some (.call (registers.value receiver) signature (rest.map registers.value)) := by
  simp only [rendered?, hresolve]
  rfl

theorem rendered?_nil : registers.rendered? file [] method = none := by
  unfold rendered?
  split
  next hoperands => cases hoperands
  next => rfl

/-- What is reported is the rendered call as text. -/
theorem emit?_call_eq_some_iff (hresolve : file.resolve method.toNat = .ok signature) {kind : CallKind}
    {operands : List UInt8} {expression : Expression} :
    registers.emit? file (.call kind operands method) = some expression ↔
      ∃ value, registers.rendered? file operands method = some value ∧
        expression = ⟨value.text, signature.returnType, true, some signature.full⟩ ∧
        Significant signature expression.text := by
  rw [emit?_eq_some_iff]
  constructor
  · rintro ⟨_, receiver, rest, _, found, hcall, hfound, rfl, hsignificant⟩
    cases hcall
    obtain rfl : signature = found := Except.ok.inj (hresolve.symm.trans hfound)
    exact ⟨_, rendered?_cons hresolve receiver rest, rfl, hsignificant⟩
  · rintro ⟨value, hvalue, hexpression, hsignificant⟩
    cases operands with
    | nil =>
        rw [rendered?_nil] at hvalue
        cases hvalue
    | cons receiver rest =>
        rw [rendered?_cons hresolve, Option.some.injEq] at hvalue
        subst hvalue
        exact ⟨kind, receiver, rest, method, signature, rfl, hresolve, hexpression, hsignificant⟩

theorem passes_iff_exists_cons (hresolve : file.resolve method.toNat = .ok signature)
    {operands arguments : List UInt8} :
    registers.Passes file operands method arguments ↔
      ∃ receiver rest, operands = receiver :: rest ∧
        rest.map registers.value = arguments.map registers.value := by
  cases operands with
  | nil => simp [Passes, rendered?_nil]
  | cons receiver rest => simp [Passes, rendered?_cons hresolve, RegisterValue.passed]

end Rendering

end Registers

namespace File.FittingCall

variable {file : File}

theorem passes_parameterOperands_iff (call : file.FittingCall) (registers : Registers) :
    registers.Passes file call.operands call.method call.parameterOperands ↔ call.kind ≠ .static := by
  rw [Registers.passes_iff_exists_cons call.resolved]
  constructor
  · rintro ⟨receiver, rest, hoperands, hpassed⟩ hstatic
    -- One value is missing.
    rw [call.parameterOperands_of_static hstatic, hoperands] at hpassed
    have hlength := congrArg List.length hpassed
    simp at hlength
  · intro hkind
    obtain ⟨receiver, hoperands⟩ := call.exists_receiver hkind
    exact ⟨receiver, call.parameterOperands, hoperands, rfl⟩

/-- In the words of a call the registers are found shifted by one place. -/
theorem passes_shifted_iff (call : file.FittingCall) (registers : Registers) {listed : ListedCall}
    (hlisted : listed.registers = call.operands) :
    registers.Passes file listed.shifted call.method call.parameterOperands ↔
      call.kind ≠ .static ∧
        call.operands.dropLast.map registers.value = call.operands.tail.map registers.value := by
  rw [Registers.passes_iff_exists_cons call.resolved, ListedCall.shifted, hlisted]
  by_cases hkind : call.kind = .static
  · rw [call.parameterOperands_of_static hkind]
    constructor
    · rintro ⟨receiver, rest, hshifted, hpassed⟩
      have hlength := congrArg List.length hshifted
      have hshorter := congrArg List.length hpassed
      simp only [List.length_dropLast, List.length_cons, List.length_map] at hlength hshorter
      omega
    · intro hright
      exact absurd hkind hright.1
  · obtain ⟨receiver, hoperands⟩ := call.exists_receiver hkind
    rw [hoperands, List.dropLast_cons_cons, List.tail_cons]
    constructor
    · rintro ⟨_, _, hshifted, hpassed⟩
      obtain ⟨-, rfl⟩ := List.cons.inj hshifted
      exact ⟨hkind, hpassed⟩
    · rintro ⟨-, hpassed⟩
      exact ⟨_, _, rfl, hpassed⟩

end File.FittingCall

/-- A call with one operand for each parameter, and one for the receiver unless it is static. The expression of an
instance call passes the values of the parameters in order. That of a static call takes the first parameter for the
receiver and passes the others, and without parameters there is none; so it never passes the parameters. If the
operands are read from the words of the call, where they are shifted by one place, even an instance call passes the
parameters only if the shifted registers hold the same values. -/
theorem arguments_are_parameters_iff {file : File} (call : file.FittingCall) (registers : Registers) :
    call.parameterOperands.length = call.signature.parameters.length ∧
      (call.kind ≠ .static → ∃ receiver, call.operands = receiver :: call.parameterOperands ∧
        registers.rendered? file call.operands call.method = some (.call (registers.value receiver)
          call.signature (call.parameterOperands.map registers.value))) ∧
      (call.kind = .static → ∀ first rest, call.parameterOperands = first :: rest →
        registers.rendered? file call.operands call.method =
          some (.call (registers.value first) call.signature (rest.map registers.value))) ∧
      (call.kind = .static → call.signature.parameters = [] →
        registers.rendered? file call.operands call.method = none) ∧
      (registers.Passes file call.operands call.method call.parameterOperands ↔ call.kind ≠ .static) ∧
      (∀ expression, registers.emit? file (.call call.kind call.operands call.method) = some expression ↔
        ∃ value, registers.rendered? file call.operands call.method = some value ∧
          expression = ⟨value.text, call.signature.returnType, true, some call.signature.full⟩ ∧
          Significant call.signature expression.text) ∧
      ∀ listed : ListedCall, listed.kind = call.kind → listed.registers = call.operands →
        listed.method = call.method →
        decode listed.words = [.call call.kind listed.shifted call.method] ∧
          (registers.Passes file listed.shifted call.method call.parameterOperands ↔
            call.kind ≠ .static ∧
              call.operands.dropLast.map registers.value = call.operands.tail.map registers.value) := by
  refine ⟨call.length_parameterOperands, ?_, ?_, ?_, call.passes_parameterOperands_iff registers, ?_, ?_⟩
  · intro hkind
    obtain ⟨receiver, hoperands⟩ := call.exists_receiver hkind
    refine ⟨receiver, hoperands, ?_⟩
    rw [hoperands, Registers.rendered?_cons call.resolved]
  · intro hkind first rest hparameters
    rw [call.parameterOperands_of_static hkind] at hparameters
    rw [hparameters, Registers.rendered?_cons call.resolved]
  · intro hkind hnone
    have hlength := call.length_parameterOperands
    rw [call.parameterOperands_of_static hkind, hnone] at hlength
    rw [List.eq_nil_of_length_eq_zero hlength, Registers.rendered?_nil]
  · intro expression
    exact Registers.emit?_call_eq_some_iff call.resolved
  · intro listed hkind hregisters hmethod
    refine ⟨?_, call.passes_shifted_iff registers hregisters⟩
    rw [listed.decode_words, hkind, hmethod]

/-- The header of a file with one method. -/
def debugHeader : Header :=
  { Header.bare with
    fileSize := 215, strings := ⟨4, 112⟩, types := ⟨3, 128⟩, protos := ⟨1, 140⟩, methods := ⟨1, 152⟩,
    data := ⟨55, 160⟩ }

/-- A file whose one method lets the pages of all web views be inspected, or not. -/
def debugFile : File where
  header := debugHeader
  image := (List.flatten [
    debugHeader.bytes,
    dwordBytes 166, dwordBytes 177, dwordBytes 180, dwordBytes 183,
    dwordBytes 0, dwordBytes 1, dwordBytes 2,
    dwordBytes 2, dwordBytes 2, dwordBytes 160,
    MethodRef.bytes ⟨0, 0, 3⟩,
    countedWords 1 [1],
    varintBytes 9, Utf8.encode "LWebView;", [0],
    varintBytes 1, Utf8.encode "Z", [0],
    varintBytes 1, Utf8.encode "V", [0],
    varintBytes 30, Utf8.encode "setWebContentsDebuggingEnabled", [0]]).toArray

/-- The static call of the method with register zero. -/
def debugCall : debugFile.FittingCall where
  kind := .static
  operands := [0]
  method := 0
  signature := .make "WebView" "setWebContentsDebuggingEnabled" ["boolean"] "void"
  resolved := by decide +kernel
  fits := rfl

/-- The one argument of the call is shown as its receiver, and nothing is passed. -/
theorem debugCall_passes_nothing :
    let registers := Registers.empty.set 0 (.int 1)
    File.ofImage debugFile.image = .ok debugFile ∧ debugCall.parameterOperands = [0] ∧
      registers.rendered? debugFile [0] 0 = some (.call (.int 1) debugCall.signature []) ∧
      (∃ expression, registers.emit? debugFile (.call .static [0] 0) = some expression ∧
        expression.text = "true.setWebContentsDebuggingEnabled()") ∧
      ¬ registers.Passes debugFile [0] 0 [0] := by
  intro registers
  have hopen : File.ofImage debugFile.image = .ok debugFile :=
    ofImage_eq rfl rfl rfl rfl (by decide +kernel)
  obtain ⟨-, -, hstatic, -, hpasses, hreport, -⟩ := arguments_are_parameters_iff debugCall registers
  have hrendered : registers.rendered? debugFile [0] 0 = some (.call (.int 1) debugCall.signature []) :=
    hstatic rfl 0 [] rfl
  refine ⟨hopen, rfl, hrendered, ⟨_, (hreport _).mpr ⟨_, hrendered, rfl, ?_⟩, rfl⟩, ?_⟩
  · exact .inr ⟨"WebView", List.mem_cons_self, .inl List.infix_rfl⟩
  · exact fun hpassed => hpasses.mp hpassed rfl

end AppSurvey.Dex
