import AppSurvey.Proofs.Dex.Layout
import AppSurvey.Proofs.Dex.ListedCall
import AppSurvey.Proofs.Dex.Report
import AppSurvey.Proofs.Dex.Writing

/-!
# Calls of the web view

A call of the web view, or of the method that switches its scripts, is reported if it lists an
operand. A call that gives its registers as a range is passed over, and so is one without operands,
whatever method they call. A call with more than five operands has no other form than the range.
-/

namespace AppSurvey.Dex

open Instruction

/-! ## The calls in question -/

/-- The signature of a method that belongs to the web view or switches its scripts. -/
def File.webSignature? (file : File) (method : UInt16) : Option Signature :=
  match file.resolve method.toNat with
  | .ok signature => if signature.isWebView || signature.enablesScripts then some signature else none
  | .error _ => none

theorem File.webSignature?_eq_some_iff {file : File} {method : UInt16} {signature : Signature} :
    file.webSignature? method = some signature ↔
      file.resolve method.toNat = .ok signature ∧
        (signature.isWebView || signature.enablesScripts) = true := by
  unfold webSignature?
  cases file.resolve method.toNat with
  | error fault => simp
  | ok found =>
      simp only [Option.ite_none_right_eq_some, Option.some.injEq, Except.ok.injEq]
      constructor
      · rintro ⟨hweb, rfl⟩
        exact ⟨rfl, hweb⟩
      · rintro ⟨rfl, hweb⟩
        exact ⟨hweb, rfl⟩

namespace Instruction

/-- The signature that a call of the web view has; none for other instructions. -/
def webCall? (file : File) (instruction : Instruction) : Option Signature :=
  instruction.calledMethod?.bind file.webSignature?

/-- Is this a call that lists a register? -/
def listsOperand : Instruction → Bool
  | .call _ (_ :: _) _ => true
  | _ => false

end Instruction

theorem RangeKind.decode_words (kind : RangeKind) (count : UInt8) (method first : UInt16) :
    decode [firstWord kind.code count, method, first] = [.callRange kind count first method] :=
  Writable.decode_written [⟨.callRange kind count first method, trivial⟩]

namespace Registers

/-! ## What becomes of each instruction -/

theorem emit?_of_listsOperand {file : File} {instruction : Instruction} {signature : Signature}
    (hweb : instruction.webCall? file = some signature) (hlists : instruction.listsOperand = true)
    (registers : Registers) :
    ∃ expression, registers.emit? file instruction = some expression ∧
      expression.signature = some signature.full := by
  match instruction, hlists with
  | .call kind (receiver :: args) method, _ =>
      obtain ⟨hresolve, hsignature⟩ := File.webSignature?_eq_some_iff.mp hweb
      refine ⟨registers.callExpression signature receiver args, emit?_eq_some_iff.mpr
        ⟨kind, receiver, args, method, signature, rfl, hresolve, rfl, isSignificant_iff.mp ?_⟩, rfl⟩
      rw [isSignificant, Bool.or_comm signature.enablesScripts, hsignature, Bool.true_or]

theorem emit?_of_not_listsOperand {instruction : Instruction}
    (hlists : instruction.listsOperand = false) (file : File) (registers : Registers) :
    registers.emit? file instruction = none := by
  cases hemit : registers.emit? file instruction with
  | none => rfl
  | some expression =>
      obtain ⟨kind, receiver, args, method, signature, rfl, -⟩ := emit?_eq_some_iff.mp hemit
      cases hlists

/-- The expression of each instruction, if it gives rise to one. -/
def emissions (file : File) (registers : Registers) : List Instruction → List (Option Expression)
  | [] => []
  | instruction :: rest =>
      registers.emit? file instruction :: emissions file (registers.step file instruction) rest

theorem follow_snd (file : File) (registers : Registers) (instructions : List Instruction) :
    (registers.follow file instructions).2 =
      (registers.emissions file instructions).filterMap id := by
  induction instructions generalizing registers with
  | nil => rfl
  | cons instruction rest ih =>
      simp only [follow, emissions, ih, List.filterMap_cons, id]
      cases registers.emit? file instruction <;> rfl

theorem getElem?_emissions {instructions : List Instruction} {place : Nat}
    {instruction : Instruction} (hplace : instructions[place]? = some instruction) (file : File)
    (registers : Registers) :
    ∃ current : Registers,
      (registers.emissions file instructions)[place]? = some (current.emit? file instruction) := by
  induction instructions generalizing registers place with
  | nil => simp at hplace
  | cons first rest ih =>
      cases place with
      | zero =>
          rw [List.getElem?_cons_zero, Option.some.injEq] at hplace
          exact ⟨registers, by rw [hplace]; rfl⟩
      | succ place => exact ih hplace (registers.step file first)

theorem length_filter_le_follow (file : File) (registers : Registers)
    (instructions : List Instruction) :
    (instructions.filter fun instruction =>
        instruction.listsOperand && (instruction.webCall? file).isSome).length ≤
      (registers.follow file instructions).2.length := by
  induction instructions generalizing registers with
  | nil => exact Nat.le_refl 0
  | cons instruction rest ih =>
      have hrest := ih (registers.step file instruction)
      rw [List.filter_cons, follow]
      dsimp only
      rw [List.length_append]
      split
      next hcounted =>
        rw [Bool.and_eq_true, Option.isSome_iff_exists] at hcounted
        obtain ⟨hlists, signature, hweb⟩ := hcounted
        obtain ⟨expression, hemit, -⟩ := emit?_of_listsOperand hweb hlists registers
        rw [hemit, List.length_cons, Option.toList_some, List.length_singleton]
        omega
      next => omega

theorem run_eq_nil_of_decode {words : List UInt16} {instruction : Instruction}
    (hwords : decode words = [instruction]) (hlists : instruction.listsOperand = false) (file : File)
    (registers : Registers) : (registers.run file words).2 = [] := by
  rw [run, hwords, follow_snd, emissions, emissions, emit?_of_not_listsOperand hlists]
  rfl

end Registers

/-- A call of the web view leads to an expression with its signature if it lists an operand, and to
none otherwise. So there are at least as many expressions as calls that list an operand, but a method
that consists of one call with a range of registers, or without any, has no expression at all. -/
theorem webCall_reported_iff_listsOperand (file : File) (registers : Registers)
    (words : List UInt16) :
    (registers.run file words).2 = (registers.emissions file (decode words)).filterMap id ∧
      (∀ (place : Nat) (instruction : Instruction) (signature : Signature),
        (decode words)[place]? = some instruction → instruction.webCall? file = some signature →
          (instruction.listsOperand = true → ∃ expression : Expression,
            (registers.emissions file (decode words))[place]? = some (some expression) ∧
              expression.signature = some signature.full) ∧
          (instruction.listsOperand = false →
            (registers.emissions file (decode words))[place]? = some none)) ∧
      ((decode words).filter fun instruction =>
          instruction.listsOperand && (instruction.webCall? file).isSome).length ≤
        (registers.run file words).2.length ∧
      (∀ (kind : RangeKind) (count : UInt8) (method first : UInt16),
        decode [firstWord kind.code count, method, first] = [.callRange kind count first method] ∧
          (registers.run file [firstWord kind.code count, method, first]).2 = []) ∧
      ∀ call : ListedCall, call.registers = [] →
        decode call.words = [.call call.kind [] call.method] ∧
          (registers.run file call.words).2 = [] := by
  refine ⟨Registers.follow_snd file registers _, ?_, Registers.length_filter_le_follow file _ _, ?_,
    ?_⟩
  · intro place instruction signature hplace hweb
    obtain ⟨current, hemission⟩ := Registers.getElem?_emissions hplace file registers
    rw [hemission]
    constructor
    · intro hlists
      obtain ⟨expression, hemit, hsignature⟩ := Registers.emit?_of_listsOperand hweb hlists current
      exact ⟨expression, by rw [hemit], hsignature⟩
    · intro hlists
      rw [Registers.emit?_of_not_listsOperand hlists]
  · intro kind count method first
    have hdecode := kind.decode_words count method first
    exact ⟨hdecode, Registers.run_eq_nil_of_decode hdecode rfl file registers⟩
  · intro call hregisters
    have hdecode : decode call.words = [.call call.kind [] call.method] := by
      rw [call.decode_words, ListedCall.shifted, hregisters]
      rfl
    exact ⟨hdecode, Registers.run_eq_nil_of_decode hdecode rfl file registers⟩

/-- A call with a range of registers on the web view in register sixteen, which has no place in a
list: the file is read, the call is decoded, its method is one of the web view, and there is no
expression. -/
theorem page_load_not_reported :
    File.ofImage pageFile.image = .ok pageFile ∧
      pageFile.webSignature? 0 = some (Signature.make "WebView" "load" [] "void") ∧
      decode [0x0174, 0, 16] = [.callRange .virtual 1 16 0] ∧
      (Registers.empty.run pageFile [0x0174, 0, 16]).2 = [] := by
  obtain ⟨-, -, -, hrange, -⟩ := webCall_reported_iff_listsOperand pageFile Registers.empty []
  refine ⟨ofImage_eq rfl rfl rfl rfl ?_, ?_, hrange .virtual 1 0 16⟩
  · decide +kernel
  · decide +kernel

end AppSurvey.Dex
