import AppSurvey.Proofs.Dex.Writing
import Mathlib.Data.List.Forall2
import Mathlib.Logic.ExistsUnique

/-!
# Code as a sequence of segments

Each instruction stands for a segment of the words, of the length that its kind has. Decoding looks at nothing
beyond the segment, and the segments follow each other without gaps; the last one may be cut short by the end
of the words. So words can be decoded in parts, as long as no part ends within an instruction.
-/

namespace AppSurvey.Dex

namespace Instruction

/-- How many words stand for an instruction. -/
inductive Spans : Instruction → Nat → Prop
  | nibble (dest : UInt8) (value : Int) : Spans (.load .nibble dest value) 1
  | other (word : UInt16) : Spans (.other word) 1
  | half (dest : UInt8) (value : Int) : Spans (.load .half dest value) 2
  | string (dest : UInt8) (index : UInt16) : Spans (.loadString dest index) 2
  | full (dest : UInt8) (value : Int) : Spans (.load .full dest value) 3
  | call (kind : CallKind) (args : List UInt8) (method : UInt16) : Spans (.call kind args method) 3
  | callRange (kind : RangeKind) (count : UInt8) (first method : UInt16) :
      Spans (.callRange kind count first method) 3

/-- One segment for each instruction. A segment decodes by itself as its instruction, and only the last one
may have less words than the instruction needs. -/
inductive Cut : List (List UInt16) → List Instruction → Prop
  | nil : Cut [] []
  | short {segment : List UInt16} {instruction : Instruction} {count : Nat}
      (hdecode : decode segment = [instruction]) (hspans : Spans instruction count)
      (hshort : segment.length < count) : Cut [segment] [instruction]
  | whole {segment : List UInt16} {segments : List (List UInt16)} {instruction : Instruction}
      {instructions : List Instruction} (hdecode : decode segment = [instruction])
      (hspans : Spans instruction segment.length) (hrest : Cut segments instructions) :
      Cut (segment :: segments) (instruction :: instructions)

theorem spans_iff {instruction : Instruction} {count : Nat} :
    Spans instruction count ↔ instruction.width = count := by
  constructor
  · intro hspans
    cases hspans <;> rfl
  · rintro rfl
    cases instruction with
    | load width dest value =>
        cases width with
        | nibble => exact .nibble dest value
        | half => exact .half dest value
        | full => exact .full dest value
    | loadString dest index => exact .string dest index
    | call kind args method => exact .call kind args method
    | callRange kind count first method => exact .callRange kind count first method
    | other word => exact .other word

/-- How many words the opcode in the first word asks for. -/
def codeWidth (code : UInt8) : Nat :=
  if code ∈ [0x13, 0x1A] then 2
  else if code ∈ [0x14, 0x6E, 0x6F, 0x70, 0x71, 0x72, 0x74, 0x77] then 3
  else 1

/-- The first word of a segment asks for as many words as its instruction needs. -/
def Opens (segment : List UInt16) (instruction : Instruction) : Prop :=
  ∃ word operands, segment = word :: operands ∧ Spans instruction (codeWidth (opcode word))

theorem width_ofCode (code : UInt8) : (Shape.ofCode code.toNat).width = codeWidth code := by
  have hall : ∀ n < 256, (Shape.ofCode n).width = codeWidth n.toUInt8 := by decide +kernel
  simpa using hall code.toNat code.toNat_lt

theorem opens_of_decode {segment : List UInt16} {instruction : Instruction}
    (hdecode : decode segment = [instruction]) : Opens segment instruction := by
  cases segment with
  | nil => simp [decode] at hdecode
  | cons word operands =>
      rw [decode_cons] at hdecode
      obtain ⟨rfl, -⟩ := List.cons.inj hdecode
      refine ⟨word, operands, rfl, spans_iff.mpr ?_⟩
      rw [width_read, shape, width_ofCode]

theorem Cut.opens {segments : List (List UInt16)} {instructions : List Instruction}
    (hcut : Cut segments instructions) : List.Forall₂ Opens segments instructions := by
  induction hcut with
  | nil => exact .nil
  | short hdecode _ _ => exact .cons (opens_of_decode hdecode) .nil
  | whole hdecode _ _ ih => exact .cons (opens_of_decode hdecode) ih

/-! ## Where the last instruction ends -/

theorem length_le_totalWidth (words : List UInt16) : words.length ≤ totalWidth (decode words) := by
  fun_induction decode words with
  | case1 => exact Nat.le_refl 0
  | case2 word operands instruction ih =>
      have hpos := instruction.width_pos
      rw [List.length_drop] at ih
      rw [totalWidth, List.length_cons]
      omega

theorem aligned_iff_totalWidth {words : List UInt16} :
    Aligned words ↔ totalWidth (decode words) = words.length := by
  constructor
  · intro haligned
    induction haligned with
    | nil => simp [decode, totalWidth]
    | @cons word operands hlength _ ih =>
        have hpos := (read word operands).width_pos
        rw [decode_cons, totalWidth, ih, List.length_drop, width_read, List.length_cons]
        rw [width_read] at hpos
        omega
  · intro htotal
    fun_induction decode words with
    | case1 => exact .nil
    | case2 word operands instruction ih =>
        have hwidth : instruction.width = (shape word).width := width_read word operands
        have hpos := instruction.width_pos
        have hrest := length_le_totalWidth (operands.drop (instruction.width - 1))
        rw [totalWidth, List.length_cons] at htotal
        rw [List.length_drop] at hrest ih
        refine .cons (by omega) ?_
        rw [← hwidth]
        exact ih (by omega)

/-- A word behind an instruction that is cut short becomes a part of it. -/
theorem length_decode_concat_of_not_aligned {words : List UInt16} (hshort : ¬ Aligned words)
    (word : UInt16) : (decode (words ++ [word])).length = (decode words).length := by
  induction words using decode.induct with
  | case1 => exact absurd .nil hshort
  | case2 first operands instruction ih =>
      rw [width_read] at ih
      rw [List.cons_append, decode_cons, decode_cons, List.length_cons, List.length_cons]
      by_cases hlength : (shape first).width ≤ operands.length + 1
      · rw [List.drop_append_of_le_length (by omega), ih fun hrest => hshort (.cons hlength hrest)]
      · rw [List.drop_eq_nil_of_le (by rw [List.length_append, List.length_singleton]; omega),
          List.drop_eq_nil_of_le (by omega)]

theorem aligned_of_decode_append {words : List UInt16}
    (happend : ∀ rest, decode (words ++ rest) = decode words ++ decode rest) : Aligned words := by
  apply Classical.byContradiction
  intro hshort
  have hlength := length_decode_concat_of_not_aligned hshort 0
  rw [happend, List.length_append, show decode [0] = [.other 0] by decide +kernel] at hlength
  exact absurd hlength (by simp)

/-! ## Segments -/

theorem decode_singleton_of_le {word : UInt16} {operands : List UInt16}
    (hlength : operands.length + 1 ≤ (shape word).width) :
    decode (word :: operands) = [read word operands] := by
  rw [decode_cons, List.drop_eq_nil_of_le (by omega), decode]

theorem exists_cut (words : List UInt16) :
    ∃ segments, segments.flatten = words ∧ Cut segments (decode words) := by
  induction words using decode.induct with
  | case1 => exact ⟨[], rfl, by rw [decode]; exact .nil⟩
  | case2 word operands instruction ih =>
      have hspans := spans_iff.mpr (width_read word operands)
      rw [width_read] at ih
      by_cases hlength : (shape word).width ≤ operands.length + 1
      · obtain ⟨segments, hflatten, hcut⟩ := ih
        have hpos := (read word operands).width_pos
        rw [width_read] at hpos
        have htake : (operands.take ((shape word).width - 1)).length + 1 = (shape word).width := by
          rw [List.length_take]
          omega
        -- The operands of the segment are all that reading looks at.
        have hread : read word (operands.take ((shape word).width - 1)) = read word operands := by
          rw [← read_append (Nat.le_of_eq htake.symm) (operands.drop ((shape word).width - 1)),
            List.take_append_drop]
        refine ⟨(word :: operands.take ((shape word).width - 1)) :: segments, ?_, ?_⟩
        · rw [List.flatten_cons, hflatten, List.cons_append, List.take_append_drop]
        · rw [decode_cons]
          refine .whole ?_ ?_ hcut
          · rw [decode_singleton_of_le (Nat.le_of_eq htake), hread]
          · rwa [List.length_cons, htake]
      · have hdecode : decode (word :: operands) = [read word operands] :=
          decode_singleton_of_le (by omega)
        refine ⟨[word :: operands], List.flatten_singleton, ?_⟩
        rw [hdecode]
        exact .short hdecode hspans (by rw [List.length_cons]; omega)

theorem Cut.decode_flatten {segments : List (List UInt16)} {instructions : List Instruction}
    (hcut : Cut segments instructions) : decode segments.flatten = instructions := by
  induction hcut with
  | nil => rw [List.flatten_nil, decode]
  | short hdecode _ _ => rw [List.flatten_singleton, hdecode]
  | whole hdecode hspans _ ih =>
      have haligned : Aligned _ := aligned_iff_totalWidth.mpr (by
        rw [hdecode, totalWidth, totalWidth, spans_iff.mp hspans, Nat.add_zero])
      rw [List.flatten_cons, decode_append haligned, hdecode, ih, List.singleton_append]

theorem Cut.unique {segments others : List (List UInt16)} {instructions : List Instruction}
    (hcut : Cut segments instructions) (hother : Cut others instructions)
    (hflatten : segments.flatten = others.flatten) : segments = others := by
  induction hcut generalizing others with
  | nil =>
      cases hother
      rfl
  | short hdecode hspans hshort =>
      cases hother with
      | short _ _ _ => simpa using hflatten
      | whole _ hwhole hrest =>
          cases hrest
          rw [spans_iff] at hspans hwhole
          simp only [List.flatten_singleton] at hflatten
          rw [hflatten] at hshort
          omega
  | whole hdecode hspans hrest ih =>
      cases hother with
      | short _ hlong hshort =>
          cases hrest
          rw [spans_iff] at hspans hlong
          simp only [List.flatten_singleton] at hflatten
          rw [← hflatten] at hshort
          omega
      | whole _ hwhole hothers =>
          rw [spans_iff] at hspans hwhole
          obtain ⟨rfl, hbehind⟩ := List.append_inj hflatten (by omega)
          rw [ih hothers hbehind]

end Instruction

open Instruction

/-- Decoding is compositional. Words decode as some instructions exactly if they can be cut into segments for
them, and then in one way only. The opcode in the first word of a segment says how many words its instruction
needs. And words can be decoded apart from whatever follows them exactly if the words that their instructions
need are as many as they are. -/
theorem decoding_cuts_and_composes :
    (∀ words instructions, decode words = instructions ↔
      ∃! segments : List (List UInt16), segments.flatten = words ∧ Cut segments instructions) ∧
    (∀ segments instructions, Cut segments instructions → List.Forall₂ Opens segments instructions) ∧
    ∀ words : List UInt16, totalWidth (decode words) = words.length ↔
      ∀ rest, decode (words ++ rest) = decode words ++ decode rest := by
  refine ⟨?_, fun segments instructions => Cut.opens, ?_⟩
  · intro words instructions
    constructor
    · rintro rfl
      obtain ⟨segments, hflatten, hcut⟩ := exists_cut words
      refine ⟨segments, ⟨hflatten, hcut⟩, ?_⟩
      rintro others ⟨hothers, hother⟩
      exact hother.unique hcut (hothers.trans hflatten.symm)
    · rintro ⟨segments, ⟨hflatten, hcut⟩, -⟩
      rw [← hflatten, hcut.decode_flatten]
  · intro words
    rw [← aligned_iff_totalWidth]
    exact ⟨decode_append, aligned_of_decode_append⟩

-- Cut short, a load has the number zero; the word behind it is its number, and no instruction.
example : decode [0x0013] = [.load .half 0 0] ∧ decode [0x000E] = [.other 0x000E] ∧
    decode ([0x0013] ++ [0x000E]) = [.load .half 0 14] := by
  decide +kernel

end AppSurvey.Dex
