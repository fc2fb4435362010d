import AppSurvey.Proofs.Dex.Instruction

/-!
# Calls in code that is laid out by the instruction set

The instruction set gives every opcode its number of words. Decoding goes by the same numbers only
for the opcodes it knows; of any other instruction it takes the first word alone and goes on with the
operands as if they were instructions. Such an instruction does no harm exactly if its operands,
decoded by themselves, end where the instruction ends and hold no call, and if it is no call itself:
it is then `ReadWhole`, like the instructions that decoding knows. The main statement is that the
calls of a method are found in every surrounding exactly for the instructions that are read whole.
-/

namespace AppSurvey.Dex

open Instruction

/-! ## The instruction set -/

/-- The words of an instruction by runs of opcodes: the first opcode of each run, and the words of an
instruction in it. An opcode without a meaning stands alone. -/
def wordRuns : List (Nat × Nat) :=
  [(0x00, 1), (0x02, 2), (0x03, 3), (0x04, 1), (0x05, 2), (0x06, 3), (0x07, 1), (0x08, 2), (0x09, 3),
    (0x0A, 1), (0x13, 2), (0x14, 3), (0x15, 2), (0x17, 3), (0x18, 5), (0x19, 2), (0x1B, 3), (0x1C, 2),
    (0x1D, 1), (0x1F, 2), (0x21, 1), (0x22, 2), (0x24, 3), (0x27, 1), (0x29, 2), (0x2A, 3), (0x2D, 2),
    (0x3E, 1), (0x44, 2), (0x6E, 3), (0x73, 1), (0x74, 3), (0x79, 1), (0x90, 2), (0xB0, 1), (0xD0, 2),
    (0xE3, 1), (0xFA, 4), (0xFC, 3), (0xFE, 2)]

/-- The words of an instruction: the last run that begins at its opcode or before decides. -/
def wordCount (code : Nat) : Nat :=
  wordRuns.foldl (fun words run => if run.1 ≤ code then run.2 else words) 0

/-- Is this the opcode of a call, with listed registers or with a range of them? -/
def isCallCode (code : Nat) : Bool :=
  (0x6E ≤ code && code ≤ 0x72) || (0x74 ≤ code && code ≤ 0x78)

/-- An instruction as the instruction set lays it out. -/
structure Encoded where
  code : UInt8
  high : UInt8
  operands : List UInt16
  length_eq : operands.length + 1 = wordCount code.toNat

namespace Encoded

/-- The words of the instruction. -/
def words (encoded : Encoded) : List UInt16 :=
  firstWord encoded.code encoded.high :: encoded.operands

/-- The number of the method that the instruction calls. -/
def calledMethod? (encoded : Encoded) : Option UInt16 :=
  if isCallCode encoded.code.toNat then encoded.operands.head? else none

/-- The words of a method, one instruction after the other. -/
def assemble (program : List Encoded) : List UInt16 :=
  program.flatMap words

/-- The instruction is decoded without harm to those around it. -/
inductive ReadWhole (encoded : Encoded) : Prop
  /-- Decoding knows the opcode. -/
  | known (hshape : Shape.ofCode encoded.code.toNat ≠ .other)
  /-- The operands are decoded to their end, and there is no call to be found or missed. -/
  | inert (hcall : encoded.calledMethod? = none) (haligned : Aligned encoded.operands)
      (hsilent : methodCalls encoded.operands = [])

end Encoded

/-! ## Calls found by decoding -/

namespace Instruction

theorem methodCalls_cons (word : UInt16) (operands : List UInt16) :
    methodCalls (word :: operands) = (read word operands).calledMethod?.toList ++
      methodCalls (operands.drop ((shape word).width - 1)) := by
  rw [methodCalls, decode_cons, List.filterMap_cons]
  cases (read word operands).calledMethod? <;> rfl

theorem methodCalls_append {words : List UInt16} (haligned : Aligned words) (rest : List UInt16) :
    methodCalls (words ++ rest) = methodCalls words ++ methodCalls rest := by
  rw [methodCalls, decode_append haligned, List.filterMap_append]
  rfl

namespace Shape

/-- Does the shape belong to a call? -/
def isCall : Shape → Bool
  | .call _ => true
  | .range _ => true
  | _ => false

theorem width_le_three (shape : Shape) : shape.width ≤ 3 := by
  cases shape with
  | load width => cases width <;> decide
  | call kind => exact Nat.le_refl 3
  | range kind => exact Nat.le_refl 3
  | _ => decide

theorem width_of_isCall {shape : Shape} (hcall : shape.isCall = true) : shape.width = 3 := by
  cases shape with
  | call kind => rfl
  | range kind => rfl
  | _ => cases hcall

end Shape

theorem calledMethod?_read (word : UInt16) (operands : List UInt16) :
    (read word operands).calledMethod? =
      if (shape word).isCall then some (operands.getD 0 0) else none := by
  rw [read_eq]
  cases shape word with
  | load width => cases width <;> rfl
  | _ => rfl

/-- Words that end with an instruction hold no call unless there are three of them. -/
theorem Aligned.methodCalls_eq_nil {words : List UInt16} (haligned : Aligned words)
    (hlength : words.length < 3) : methodCalls words = [] := by
  induction haligned with
  | nil => simp [methodCalls, decode]
  | @cons word operands hwidth _ ih =>
      rw [List.length_cons] at hlength
      have hcall : (shape word).isCall = false := by
        rw [Bool.eq_false_iff]
        intro hcall
        rw [Shape.width_of_isCall hcall] at hwidth
        omega
      rw [methodCalls_cons, calledMethod?_read, hcall]
      exact ih (by rw [List.length_drop]; omega)

/-- If the last instruction in some words reaches into a call behind them, that call is lost: its
method has no part in what is found. -/
theorem methodCalls_append_of_not_aligned {words : List UInt16} (hoverrun : ¬ Aligned words) :
    methodCalls (words ++ [0x106E, 0, 0]) = methodCalls (words ++ [0x106E, 1, 0]) := by
  have hbehind : methodCalls [0, 0] = methodCalls [1, 0] := by decide +kernel
  -- Along the instructions, up to the one that reaches over the end.
  induction words using decode.induct with
  | case1 => exact absurd .nil hoverrun
  | case2 word operands instruction ih =>
      rw [List.cons_append, List.cons_append, methodCalls_cons, methodCalls_cons]
      by_cases hlength : (shape word).width ≤ operands.length + 1
      · have hdrop : (shape word).width - 1 ≤ operands.length := by omega
        rw [width_read] at ih
        rw [read_append hlength, read_append hlength, List.drop_append_of_le_length hdrop,
          List.drop_append_of_le_length hdrop, ih fun hrest => hoverrun (.cons hlength hrest)]
      · -- The instruction takes one or two words of the call, and the others are no call.
        have hwidth := (shape word).width_le_three
        rw [calledMethod?_read, calledMethod?_read]
        rcases operands with _ | ⟨first, _ | ⟨second, tail⟩⟩
        · obtain hwidth | hwidth : (shape word).width = 2 ∨ (shape word).width = 3 := by
            rw [List.length_nil] at hlength
            omega
          · rw [hwidth]
            exact congrArg _ hbehind
          · rw [hwidth]
            rfl
        · have hthree : (shape word).width = 3 := by
            rw [List.length_singleton] at hlength
            omega
          rw [hthree]
          exact congrArg _ hbehind
        · rw [List.length_cons, List.length_cons] at hlength
          omega

end Instruction

/-! ## Programs -/

namespace Encoded

/-- On the opcodes that it knows, decoding agrees with the instruction set. -/
theorem width_ofCode {code : Nat} (hknown : Shape.ofCode code ≠ .other) :
    (Shape.ofCode code).width = wordCount code ∧
      (Shape.ofCode code).isCall = isCallCode code := by
  fun_cases Shape.ofCode code
  case case12 => simp_all [Shape.ofCode]
  all_goals exact ⟨rfl, rfl⟩

theorem shape_firstWord (encoded : Encoded) :
    shape (firstWord encoded.code encoded.high) = .ofCode encoded.code.toNat := by
  rw [shape, opcode_firstWord]

theorem length_operands_of_isCallCode {encoded : Encoded}
    (hcall : isCallCode encoded.code.toNat = true) : encoded.operands.length = 2 := by
  have hcount : ∀ code < 256, isCallCode code = true → wordCount code = 3 := by decide +kernel
  have hlength := encoded.length_eq
  rw [hcount _ encoded.code.toNat_lt hcall] at hlength
  omega

theorem length_operands_of_calledMethod? {encoded : Encoded} {method : UInt16}
    (hcalled : encoded.calledMethod? = some method) : encoded.operands.length = 2 := by
  rw [calledMethod?, Option.ite_none_right_eq_some] at hcalled
  exact length_operands_of_isCallCode hcalled.1

/-- What decoding knows, it takes in whole. -/
theorem words_of_known {encoded : Encoded} (hknown : Shape.ofCode encoded.code.toNat ≠ .other) :
    Aligned encoded.words ∧ methodCalls encoded.words = encoded.calledMethod?.toList := by
  obtain ⟨hwidth, hcall⟩ := width_ofCode hknown
  have hlength := encoded.length_eq
  have hdrop : encoded.operands.drop (wordCount encoded.code.toNat - 1) = [] := by
    rw [List.drop_eq_nil_iff]
    omega
  have hshape := encoded.shape_firstWord
  constructor
  · apply Aligned.cons
    · rw [hshape, hwidth]
      omega
    · rw [hshape, hwidth, hdrop]
      exact .nil
  · rw [words, methodCalls_cons, calledMethod?_read, hshape, hwidth, hdrop, hcall, calledMethod?]
    cases hcode : isCallCode encoded.code.toNat with
    | false => simp [methodCalls, decode]
    | true =>
        have htwo := length_operands_of_isCallCode hcode
        obtain ⟨method, rest, hoperands⟩ :=
          List.exists_cons_of_length_pos (show 0 < encoded.operands.length by omega)
        simp [hoperands, methodCalls, decode]

/-- Of an instruction that decoding does not know, the operands are decoded as instructions. -/
theorem methodCalls_words_append_of_unknown {encoded : Encoded}
    (hunknown : Shape.ofCode encoded.code.toNat = .other) (rest : List UInt16) :
    methodCalls (encoded.words ++ rest) = methodCalls (encoded.operands ++ rest) := by
  rw [words, List.cons_append, methodCalls_cons, calledMethod?_read, shape_firstWord, hunknown]
  rfl

theorem ReadWhole.methodCalls_words_append {encoded : Encoded} (hwhole : encoded.ReadWhole)
    (rest : List UInt16) :
    methodCalls (encoded.words ++ rest) = encoded.calledMethod?.toList ++ methodCalls rest := by
  by_cases hknown : Shape.ofCode encoded.code.toNat = .other
  · cases hwhole with
    | known hshape => exact absurd hknown hshape
    | inert hcall haligned hsilent =>
        rw [methodCalls_words_append_of_unknown hknown, methodCalls_append haligned, hsilent, hcall]
        rfl
  · obtain ⟨haligned, hcalls⟩ := words_of_known hknown
    rw [methodCalls_append haligned, hcalls]

/-- The calls of a program are found if each of its instructions is read whole. -/
theorem methodCalls_assemble {program : List Encoded}
    (hwhole : ∀ encoded ∈ program, encoded.ReadWhole) :
    methodCalls (assemble program) = program.filterMap calledMethod? := by
  induction program with
  | nil => simp [assemble, methodCalls, decode]
  | cons encoded rest ih =>
      rw [List.forall_mem_cons] at hwhole
      rw [assemble, List.flatMap_cons, hwhole.1.methodCalls_words_append, List.filterMap_cons]
      have hrest := ih hwhole.2
      rw [assemble] at hrest
      rw [hrest]
      cases encoded.calledMethod? <;> rfl

/-- A call of a method on register zero. -/
def callOnZero (method : UInt16) : Encoded where
  code := 0x6E
  high := 0x10
  operands := [method, 0]
  length_eq := rfl

theorem callOnZero_readWhole (method : UInt16) : (callOnZero method).ReadWhole :=
  .known nofun

/-- An instruction is read whole if every call behind it is found. -/
theorem readWhole_of_found {encoded : Encoded}
    (hfound : ∀ method, methodCalls (assemble [encoded, callOnZero method]) =
      [encoded, callOnZero method].filterMap calledMethod?) : encoded.ReadWhole := by
  by_cases hunknown : Shape.ofCode encoded.code.toNat = .other
  · have hcalls (method : UInt16) : methodCalls (encoded.operands ++ [0x106E, method, 0]) =
        encoded.calledMethod?.toList ++ [method] := by
      have hprogram := hfound method
      rw [assemble, List.flatMap_cons, methodCalls_words_append_of_unknown hunknown,
        List.filterMap_cons] at hprogram
      refine hprogram.trans ?_
      cases encoded.calledMethod? <;> rfl
    by_cases haligned : Aligned encoded.operands
    · have hoperands : methodCalls encoded.operands = encoded.calledMethod?.toList := by
        have hcall : methodCalls [0x106E, 0, 0] = [0] := by decide +kernel
        have hzero := hcalls 0
        rwa [methodCalls_append haligned, hcall, List.append_cancel_right_eq] at hzero
      cases hcalled : encoded.calledMethod? with
      | none => exact .inert hcalled haligned (by rw [hoperands, hcalled]; rfl)
      | some method =>
          -- The two operands would have to hold the call, but two words are too few for one.
          have htwo := length_operands_of_calledMethod? hcalled
          rw [haligned.methodCalls_eq_nil (by omega), hcalled] at hoperands
          cases hoperands
    · have hlost := methodCalls_append_of_not_aligned haligned
      rw [hcalls, hcalls] at hlost
      simp at hlost
  · exact .known hunknown

/-- A call with a range of registers is read whole only if it is virtual or static. -/
theorem not_readWhole_of_range {encoded : Encoded}
    (hcode : encoded.code ∈ [0x75, 0x76, 0x78]) : ¬ encoded.ReadWhole := by
  have hrange : isCallCode encoded.code.toNat = true ∧
      Shape.ofCode encoded.code.toNat = .other := by
    simp only [List.mem_cons, List.not_mem_nil, or_false] at hcode
    rcases hcode with hsuper | hdirect | hinterface
    · rw [hsuper]
      exact ⟨rfl, rfl⟩
    · rw [hdirect]
      exact ⟨rfl, rfl⟩
    · rw [hinterface]
      exact ⟨rfl, rfl⟩
  intro hwhole
  cases hwhole with
  | known hshape => exact hshape hrange.2
  | inert hcall _ _ =>
      rw [calledMethod?, if_pos hrange.1, List.head?_eq_none_iff] at hcall
      have htwo := length_operands_of_isCallCode hrange.1
      rw [hcall] at htwo
      cases htwo

end Encoded

/-- An instruction does not disturb the search for calls, in any program whose other instructions do
not, exactly if it is read whole. Among the calls with a range of registers these are the virtual and
the static ones only. -/
theorem methodCalls_assemble_iff_readWhole (encoded : Encoded) :
    ((∀ before after : List Encoded, (∀ other ∈ before ++ after, other.ReadWhole) →
        methodCalls (Encoded.assemble (before ++ encoded :: after)) =
          (before ++ encoded :: after).filterMap Encoded.calledMethod?) ↔ encoded.ReadWhole) ∧
      (encoded.code ∈ [0x75, 0x76, 0x78] → ¬ encoded.ReadWhole) := by
  refine ⟨⟨fun hfound => ?_, fun hwhole before after hothers => ?_⟩, Encoded.not_readWhole_of_range⟩
  · apply Encoded.readWhole_of_found
    intro method
    apply hfound [] [Encoded.callOnZero method]
    rw [List.nil_append, List.forall_mem_singleton]
    exact Encoded.callOnZero_readWhole method
  · apply Encoded.methodCalls_assemble
    intro other hother
    rw [List.mem_append, List.mem_cons] at hother
    rcases hother with hbefore | rfl | hafter
    · exact hothers other (List.mem_append_left _ hbefore)
    · exact hwhole
    · exact hothers other (List.mem_append_right _ hafter)

/-- Loads the wide constant 110 into the registers zero and one. -/
def wideConstant : Encoded where
  code := 0x16
  high := 0
  operands := [0x6E]
  length_eq := rfl

/-- The constant is taken for a call, and the word that follows it for the method called. -/
theorem wideConstant_hides_call :
    Encoded.assemble [wideConstant, Encoded.callOnZero 5] = [0x16, 0x6E, 0x106E, 5, 0] ∧
      methodCalls (Encoded.assemble [wideConstant, Encoded.callOnZero 5]) = [0x106E] ∧
      [wideConstant, Encoded.callOnZero 5].filterMap Encoded.calledMethod? = [5] ∧
      ¬ wideConstant.ReadWhole := by
  have hfound : methodCalls (Encoded.assemble [wideConstant, Encoded.callOnZero 5]) = [0x106E] := by
    decide +kernel
  refine ⟨rfl, hfound, rfl, fun hwhole => ?_⟩
  have hcalls := (methodCalls_assemble_iff_readWhole wideConstant).1.mpr hwhole []
    [Encoded.callOnZero 5] (List.forall_mem_singleton.mpr (Encoded.callOnZero_readWhole 5))
  exact absurd (hfound.symm.trans hcalls) (by decide)

end AppSurvey.Dex
