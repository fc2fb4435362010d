import AppSurvey.Dex.Listing

/-!
# The views of a method

A decoded method is shown as text, as records, as the numbers that it loads and as the methods that it calls.
Each view looks at the instructions for itself, and the tests of a record look at the name of its opcode only.
The main statement is that they agree.
-/

namespace AppSurvey.Dex

open Text

namespace Listing

/-! ## The text of a record -/

theorem line_pair (opcode first second : String) :
    line opcode [first, second] = opcode ++ " " ++ first ++ ", " ++ second := by
  simp [line, commaList, String.append_assoc]

/-- The last register of a range, in numbers of 16 bits and modulo their count. -/
theorem toNat_last (count : UInt8) (first : UInt16) :
    (first + count.toUInt16 - 1).toNat = Instruction.rangeLast count first := by
  have hfirst := first.toNat_lt
  have hcount := count.toNat_lt
  rw [Instruction.rangeLast, UInt16.toNat_sub, UInt16.toNat_add, UInt8.toNat_toUInt16]
  simp only [UInt16.reduceToNat]
  omega

theorem raw_ofInstruction (instruction : Instruction) :
    (ofInstruction instruction).raw = instruction.text := by
  have hmethod : ", method@" = ", " ++ "method@" := by decide
  cases instruction with
  | load width dest value =>
      have hdest : " v" = " " ++ "v" := by decide
      have hvalue : ", #" = ", " ++ "#" := by decide
      change line width.mnemonic ["v" ++ toString dest.toNat, "#" ++ toString value] =
        width.mnemonic ++ " v" ++ toString dest.toNat ++ ", #" ++ toString value
      simp only [line_pair, hdest, hvalue, String.append_assoc]
  | loadString dest index =>
      have hdest : "const-string v" = "const-string" ++ " " ++ "v" := by decide
      have hindex : ", string@" = ", " ++ "string@" := by decide
      change line "const-string" ["v" ++ toString dest.toNat, "string@" ++ toString index.toNat] =
        "const-string v" ++ toString dest.toNat ++ ", string@" ++ toString index.toNat
      simp only [line_pair, hdest, hindex, String.append_assoc]
  | call kind args method =>
      change line kind.mnemonic [Instruction.registerList args, "method@" ++ toString method.toNat] =
        kind.mnemonic ++ " " ++ Instruction.registerList args ++ ", method@" ++ toString method.toNat
      simp only [line_pair, hmethod, String.append_assoc]
  | callRange kind count first method =>
      have hfirst : " \x7bv" = " " ++ "\x7bv" := by decide
      change line kind.mnemonic ["\x7bv" ++ toString first.toNat ++ " .. v" ++
            toString (first + count.toUInt16 - 1).toNat ++ "\x7d", "method@" ++ toString method.toNat] =
        kind.mnemonic ++ (" \x7bv" ++ toString first.toNat ++ " .. v" ++
            toString (Instruction.rangeLast count first) ++ "\x7d") ++
          (", method@" ++ toString method.toNat)
      rw [toNat_last]
      simp only [line_pair, hfirst, hmethod, String.append_assoc]
  | other word => rfl

/-! ## The tests of a record -/

theorem startsWith_load (width : LoadWidth) :
    startsWith width.mnemonic "const" = true ∧ startsWith width.mnemonic "invoke" = false := by
  cases width <;> decide

theorem startsWith_call (kind : CallKind) :
    startsWith kind.mnemonic "const" = false ∧ startsWith kind.mnemonic "invoke" = true := by
  cases kind <;> decide

theorem startsWith_callRange (kind : RangeKind) :
    startsWith kind.mnemonic "const" = false ∧ startsWith kind.mnemonic "invoke" = true := by
  cases kind <;> decide

theorem startsWith_unknown (code : String) :
    startsWith ("unknown(0x" ++ code ++ ")") "const" = false ∧
      startsWith ("unknown(0x" ++ code ++ ")") "invoke" = false := by
  simp [startsWith, List.isPrefixOf]

theorem isInvoke_ofInstruction (instruction : Instruction) :
    (ofInstruction instruction).isInvoke = (ofInstruction instruction).method.isSome := by
  cases instruction with
  | load width dest value => exact (startsWith_load width).2
  | loadString dest index => exact (show startsWith "const-string" "invoke" = false by decide)
  | call kind args method => exact (startsWith_call kind).2
  | callRange kind count first method => exact (startsWith_callRange kind).2
  | other word => exact (startsWith_unknown _).2

theorem isConst_ofInstruction (instruction : Instruction) :
    (ofInstruction instruction).isConst =
      ((ofInstruction instruction).value.isSome || (ofInstruction instruction).string.isSome) := by
  cases instruction with
  | load width dest value => exact (startsWith_load width).1
  | loadString dest index => exact (show startsWith "const-string" "const" = true by decide)
  | call kind args method => exact (startsWith_call kind).1
  | callRange kind count first method => exact (startsWith_callRange kind).1
  | other word => exact (startsWith_unknown _).1

/-! ## The parts of a record -/

theorem value_ofInstruction (instruction : Instruction) :
    (ofInstruction instruction).value = instruction.value? := by
  cases instruction <;> rfl

theorem method_ofInstruction (instruction : Instruction) :
    (ofInstruction instruction).method = instruction.calledMethod? := by
  cases instruction <;> rfl

theorem filterMap_decode {β : Type} {part : Listing → Option β} {view : Instruction → Option β}
    (hpart : ∀ instruction, part (ofInstruction instruction) = view instruction)
    (words : List UInt16) :
    (decode words).filterMap part = (Instruction.decode words).filterMap view := by
  rw [decode, List.filterMap_map]
  congr 1
  funext instruction
  exact hpart instruction

end Listing

/-- The views of a method agree: a record has the text of its instruction, the numbers and the methods in the
records are those that are loaded and called, and a record passes for a call exactly if it has a method, and
for a load exactly if it has a number or a string. -/
theorem views_of_method_agree (words : List UInt16) :
    (Listing.decode words).map Listing.raw = (Instruction.decode words).map Instruction.text ∧
    Instruction.constants words = (Listing.decode words).filterMap Listing.value ∧
    Instruction.methodCalls words = (Listing.decode words).filterMap Listing.method ∧
    ∀ listing ∈ Listing.decode words,
      (listing.isInvoke = true ↔ ∃ method, listing.method = some method) ∧
      (listing.isConst = true ↔
        (∃ value, listing.value = some value) ∨ ∃ index, listing.string = some index) := by
  refine ⟨?_, ?_, ?_, ?_⟩
  · rw [Listing.decode, List.map_map]
    apply List.map_congr_left
    intro instruction _
    exact Listing.raw_ofInstruction instruction
  · exact (Listing.filterMap_decode Listing.value_ofInstruction words).symm
  · exact (Listing.filterMap_decode Listing.method_ofInstruction words).symm
  · intro listing hlisting
    obtain ⟨instruction, -, rfl⟩ := List.mem_map.mp hlisting
    rw [Listing.isInvoke_ofInstruction, Listing.isConst_ofInstruction, Bool.or_eq_true,
      Option.isSome_iff_exists, Option.isSome_iff_exists, Option.isSome_iff_exists]
    exact ⟨Iff.rfl, Iff.rfl⟩

/-- Calls method 5 with two registers from the last one on. -/
def callPastLast : List UInt16 := [0x0274, 5, 0xFFFF]

/-- The range ends at register zero in both texts, and the record without registers still is a call. -/
theorem callPastLast_views_agree :
    (Listing.decode callPastLast).map Listing.raw =
        ["invoke-virtual/range \x7bv65535 .. v0\x7d, method@5"] ∧
      (Listing.decode callPastLast).filterMap Listing.method = [5] ∧
      ∀ listing ∈ Listing.decode callPastLast,
        listing.args = [] ∧ listing.isInvoke = true ∧ listing.isConst = false := by
  obtain ⟨hraw, -, hmethod, htests⟩ := views_of_method_agree callPastLast
  have hdecode : Instruction.decode callPastLast = [.callRange .virtual 2 0xFFFF 5] := by
    decide +kernel
  refine ⟨?_, ?_, fun listing hlisting => ?_⟩
  · rw [hraw, hdecode]
    decide +kernel
  · rw [← hmethod]
    decide +kernel
  · obtain ⟨hinvoke, hconst⟩ := htests listing hlisting
    rw [Listing.decode, hdecode, List.map_singleton, List.mem_singleton] at hlisting
    subst hlisting
    refine ⟨by decide +kernel, hinvoke.mpr ⟨5, rfl⟩, ?_⟩
    rw [Bool.eq_false_iff, Ne, hconst]
    rintro (⟨value, hvalue⟩ | ⟨index, hindex⟩)
    · cases hvalue
    · cases hindex

end AppSurvey.Dex
