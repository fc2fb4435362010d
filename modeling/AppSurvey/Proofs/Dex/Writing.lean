import AppSurvey.Proofs.Dex.Instruction

/-!
# Instructions written as words

`Writable.words` lays an instruction out as the instruction set does. Decoding the words of a program
gives the program back. Conversely, code that decodes without a call of listed registers is written
back word for word, unless its last instruction is cut short: missing words read as zero, and zeros
are written in their place. Calls with listed registers are left out, since decoding does not take
their registers in the order in which the instruction set stores them.
-/

namespace AppSurvey.Dex

open Instruction

/-- The words that some instructions take up. -/
def Instruction.totalWidth : List Instruction → Nat
  | [] => 0
  | instruction :: rest => instruction.width + totalWidth rest

/-- Do the operands fit the layout of the instruction? Numbers are in two's complement. -/
def Instruction.IsWritable : Instruction → Prop
  | .load .nibble dest value => dest.toNat < 16 ∧ -8 ≤ value ∧ value < 8
  | .load .half _ value => -0x8000 ≤ value ∧ value < 0x8000
  | .load .full _ value => -0x80000000 ≤ value ∧ value < 0x80000000
  | .loadString _ _ => True
  | .call _ _ _ => False
  | .callRange _ _ _ _ => True
  | .other word => shape word = .other

/-- An instruction whose operands fit its layout. -/
abbrev Writable := { instruction : Instruction // instruction.IsWritable }

namespace Writable

/-- The words of an instruction. -/
def words : Writable → List UInt16
  | ⟨.load .nibble dest value, _⟩ =>
      [firstWord 0x12 (dest.toNat + 16 * (value % 16).toNat).toUInt8]
  | ⟨.load .half dest value, _⟩ => [firstWord 0x13 dest, UInt16.ofInt value]
  | ⟨.load .full dest value, _⟩ =>
      [firstWord 0x14 dest, UInt16.ofInt value, UInt16.ofInt (value / 0x10000)]
  | ⟨.loadString dest index, _⟩ => [firstWord 0x1A dest, index]
  | ⟨.call _ _ _, hcall⟩ => hcall.elim
  | ⟨.callRange kind count first method, _⟩ => [firstWord kind.code count, method, first]
  | ⟨.other word, _⟩ => [word]

/-- The words of a program, one instruction after the other. -/
def written (program : List Writable) : List UInt16 :=
  program.flatMap words

theorem length_words (writable : Writable) : writable.words.length = writable.val.width := by
  obtain ⟨instruction, hwritable⟩ := writable
  cases instruction with
  | load width dest value => cases width <;> rfl
  | call kind args method => exact hwritable.elim
  | _ => rfl

theorem length_written (program : List Writable) :
    (written program).length = totalWidth (program.map Subtype.val) := by
  induction program with
  | nil => rfl
  | cons first rest ih =>
      rw [written, List.flatMap_cons, List.length_append, length_words, ← written, ih, List.map_cons,
        totalWidth]

end Writable

/-! ## Numbers in words -/

theorem toNat_ofInt (value : Int) : (UInt16.ofInt value).toNat = (value % 0x10000).toNat := by
  have hbound : (value % 0x10000).toNat < 65536 := by omega
  exact UInt16.toNat_ofNat_of_lt' hbound

theorem bmod_ofInt {value : Int} (hlow : -0x8000 ≤ value) (hhigh : value < 0x8000) :
    Int.bmod (UInt16.ofInt value).toNat 0x10000 = value := by
  rw [toNat_ofInt, Int.bmod_def]
  omega

theorem ofInt_bmod (word : UInt16) : UInt16.ofInt (Int.bmod word.toNat 0x10000) = word := by
  have hword := word.toNat_lt
  rw [← UInt16.toNat_inj, toNat_ofInt, Int.bmod_def]
  omega

theorem fullValue_cons (low high : UInt16) (rest : List UInt16) :
    fullValue (low :: high :: rest) = Int.bmod (low.toNat + 65536 * high.toNat) 0x100000000 := rfl

theorem fullValue_ofInt {value : Int} (hlow : -0x80000000 ≤ value) (hhigh : value < 0x80000000) :
    fullValue [UInt16.ofInt value, UInt16.ofInt (value / 0x10000)] = value := by
  rw [fullValue_cons, toNat_ofInt, toNat_ofInt, Int.bmod_def]
  omega

theorem ofInt_fullValue (low high : UInt16) (rest : List UInt16) :
    UInt16.ofInt (fullValue (low :: high :: rest)) = low ∧
      UInt16.ofInt (fullValue (low :: high :: rest) / 0x10000) = high := by
  have hlow := low.toNat_lt
  have hhigh := high.toNat_lt
  rw [← UInt16.toNat_inj, ← UInt16.toNat_inj, toNat_ofInt, toNat_ofInt, fullValue_cons, Int.bmod_def]
  omega

theorem bounds_fullValue (operands : List UInt16) :
    -0x80000000 ≤ fullValue operands ∧ fullValue operands < 0x80000000 := by
  match operands with
  | [] | [_] => exact ⟨show (-0x80000000 : Int) ≤ 0 by decide, show (0 : Int) < _ by decide⟩
  | low :: high :: rest =>
      rw [fullValue_cons, Int.bmod_def]
      omega

theorem nibbles_firstWord {low high : Nat} (hlow : low < 16) (hhigh : high < 16) (code : UInt8) :
    nibble (firstWord code (low + 16 * high).toUInt8) 2 = low ∧
      nibble (firstWord code (low + 16 * high).toUInt8) 3 = high := by
  have hcode := code.toNat_lt
  have hpair : (low + 16 * high).toUInt8.toNat = low + 16 * high :=
    UInt8.toNat_ofNat_of_lt' (show low + 16 * high < 256 by omega)
  simp only [nibble, toNat_firstWord, hpair, Nat.pow_eq]
  omega

theorem highByte_eq_nibbles (word : UInt16) :
    highByte word = (nibble word 2 + 16 * nibble word 3).toUInt8 := by
  have hword := word.toNat_lt
  rw [highByte]
  congr 1
  simp only [nibble, Nat.pow_eq]
  omega

/-! ## One instruction -/

/-- The words are as many as reading takes, and read as the instruction. -/
def ReadsAs (words : List UInt16) (instruction : Instruction) : Prop :=
  ∃ word operands, words = word :: operands ∧
    (shape word).width = operands.length + 1 ∧ read word operands = instruction

theorem readsAs_of_shape {known : Shape} {word : UInt16} {operands : List UInt16}
    {instruction : Instruction} (hshape : shape word = known)
    (hwidth : known.width = operands.length + 1)
    (hinstruction : known.instruction word operands = instruction) :
    ReadsAs (word :: operands) instruction := by
  subst hshape
  exact ⟨word, operands, rfl, hwidth, by rw [read_eq, hinstruction]⟩

theorem readsAs_of_code? (known : Shape) {code high : UInt8} {operands : List UInt16}
    {instruction : Instruction} (hcode : known.code? = some code)
    (hwidth : known.width = operands.length + 1)
    (hinstruction : known.instruction (firstWord code high) operands = instruction) :
    ReadsAs (firstWord code high :: operands) instruction :=
  readsAs_of_shape (shape_firstWord_of_code? hcode high) hwidth hinstruction

theorem Writable.readsAs_words (writable : Writable) : ReadsAs writable.words writable.val := by
  obtain ⟨instruction, hwritable⟩ := writable
  cases instruction with
  | load width dest value =>
      cases width with
      | nibble =>
          obtain ⟨hdest, hlow, hhigh⟩ := hwritable
          obtain ⟨hfirst, hsecond⟩ :=
            nibbles_firstWord hdest (show (value % 16).toNat < 16 by omega) 0x12
          have hregister : dest.toNat.toUInt8 = dest := UInt8.ofNat_toNat
          have hvalue : Int.bmod (value % 16).toNat 16 = value := by
            rw [Int.bmod_def]
            omega
          refine readsAs_of_code? (.load .nibble) rfl rfl ?_
          rw [Shape.instruction, hfirst, hsecond, hvalue, hregister]
      | half =>
          refine readsAs_of_code? (.load .half) rfl rfl ?_
          rw [Shape.instruction, highByte_firstWord, List.getD_cons_zero,
            bmod_ofInt hwritable.1 hwritable.2]
      | full =>
          refine readsAs_of_code? (.load .full) rfl rfl ?_
          rw [Shape.instruction, highByte_firstWord, fullValue_ofInt hwritable.1 hwritable.2]
  | loadString dest index =>
      refine readsAs_of_code? .string rfl rfl ?_
      rw [Shape.instruction, highByte_firstWord, List.getD_cons_zero]
  | call kind args method => exact hwritable.elim
  | callRange kind count first method =>
      refine readsAs_of_code? (.range kind) rfl rfl ?_
      rw [Shape.instruction, readRange, highByte_firstWord, List.getD_cons_zero,
        List.getD_cons_succ, List.getD_cons_zero]
  | other word => exact readsAs_of_shape hwritable rfl rfl

/-- What reading finds can be written, unless it is a call of listed registers. -/
theorem isWritable_read {word : UInt16} {operands : List UInt16}
    (hlisted : ∀ kind args method, read word operands ≠ .call kind args method) :
    (read word operands).IsWritable := by
  rw [read_eq] at hlisted ⊢
  cases hshape : shape word with
  | load width =>
      cases width with
      | nibble =>
          refine ⟨?_, ?_, ?_⟩
          · rw [toNat_nibble]
            exact Nat.mod_lt _ (by decide)
          · exact Int.le_bmod (by decide)
          · exact Int.bmod_lt (by decide)
      | half => exact ⟨Int.le_bmod (by decide), Int.bmod_lt (by decide)⟩
      | full => exact bounds_fullValue operands
  | string => trivial
  | call kind =>
      rw [hshape] at hlisted
      exact absurd rfl (hlisted _ _ _)
  | range kind => trivial
  | other => exact hshape

theorem exists_two_of_length {operands : List UInt16} (hlength : 3 ≤ operands.length + 1) :
    ∃ first second rest, operands = first :: second :: rest := by
  match operands, hlength with
  | first :: second :: rest, _ => exact ⟨first, second, rest, rfl⟩

/-- If the words of an instruction are all there, it is written as them. -/
theorem Writable.words_of_read {writable : Writable} {word : UInt16} {operands : List UInt16}
    (hread : writable.val = read word operands)
    (hlength : (shape word).width ≤ operands.length + 1) :
    writable.words = word :: operands.take ((shape word).width - 1) := by
  obtain ⟨instruction, hwritable⟩ := writable
  rw [read_eq] at hread
  have hfirst {code : UInt8} (hcode : (shape word).code? = some code) := eq_firstWord_of_code? hcode
  cases hshape : shape word with
  | load width =>
      rw [hshape] at hread hlength hfirst
      cases width with
      | nibble =>
          cases hread
          have hword := hfirst rfl
          rw [highByte_eq_nibbles] at hword
          have hhigh : ((Int.bmod (nibble word 3) 16) % 16).toNat = nibble word 3 := by
            have hnibble : nibble word 3 < 16 := Nat.mod_lt _ (by decide)
            rw [Int.bmod_def]
            omega
          rw [words, toNat_nibble, hhigh, ← hword]
          rfl
      | half =>
          cases hread
          obtain ⟨operand, rest, rfl⟩ :=
            List.exists_cons_of_length_pos (show 0 < operands.length from Nat.le_of_succ_le_succ hlength)
          rw [words, ← hfirst rfl, List.getD_cons_zero, ofInt_bmod]
          rfl
      | full =>
          obtain ⟨low, high, rest, rfl⟩ := exists_two_of_length hlength
          obtain ⟨hlow, hhigh⟩ := ofInt_fullValue low high rest
          cases hread
          rw [words, ← hfirst rfl, hlow, hhigh]
          rfl
  | string =>
      rw [hshape] at hread hlength hfirst
      cases hread
      obtain ⟨operand, rest, rfl⟩ :=
        List.exists_cons_of_length_pos (show 0 < operands.length from Nat.le_of_succ_le_succ hlength)
      rw [words, ← hfirst rfl]
      rfl
  | call kind =>
      rw [hshape] at hread
      cases hread
      exact hwritable.elim
  | range kind =>
      rw [hshape] at hread hlength hfirst
      obtain ⟨method, first, rest, rfl⟩ := exists_two_of_length hlength
      cases hread
      rw [words, ← hfirst rfl]
      rfl
  | other =>
      rw [hshape] at hread
      cases hread
      rfl

/-! ## Programs -/

namespace Writable

theorem decode_words_append (writable : Writable) (rest : List UInt16) :
    decode (writable.words ++ rest) = writable.val :: decode rest := by
  obtain ⟨word, operands, hwords, hwidth, hread⟩ := writable.readsAs_words
  rw [hwords, List.cons_append, decode_cons, read_append (Nat.le_of_eq hwidth), hread, hwidth,
    Nat.add_sub_cancel, List.drop_left]

theorem decode_written (program : List Writable) :
    decode (written program) = program.map Subtype.val := by
  induction program with
  | nil => simp [written, decode]
  | cons first rest ih =>
      rw [written, List.flatMap_cons, decode_words_append, List.map_cons]
      exact congrArg _ ih

/-- Code without calls of listed registers decodes to a program, which is written as this code if
none of its words is missing. -/
theorem exists_program {words : List UInt16}
    (hlisted : ∀ kind args method, .call kind args method ∉ decode words) :
    ∃ program : List Writable, program.map Subtype.val = decode words ∧
      (totalWidth (decode words) = words.length → written program = words) := by
  -- Along the instructions; the widths of those behind the first fill the words behind it.
  fun_induction decode words with
  | case1 => exact ⟨[], rfl, fun _ => rfl⟩
  | case2 word operands instruction ih =>
      obtain ⟨rest, hrest, hwritten⟩ := ih fun kind args method hcall =>
        hlisted kind args method (List.mem_cons_of_mem _ hcall)
      have hfirst : instruction.IsWritable := by
        apply isWritable_read
        intro kind args method hcall
        exact hlisted kind args method (hcall ▸ List.mem_cons_self)
      refine ⟨⟨instruction, hfirst⟩ :: rest, by rw [List.map_cons, hrest], fun hwhole => ?_⟩
      have hwidth : instruction.width = (shape word).width := width_read word operands
      have hpos := instruction.width_pos
      rw [totalWidth, List.length_cons] at hwhole
      have hbehind := hwritten (by rw [List.length_drop]; omega)
      rw [written, List.flatMap_cons, words_of_read rfl (by omega), ← written, hbehind, ← hwidth,
        List.cons_append, List.take_append_drop]

end Writable

/-- Decoding undoes writing: the words of a program decode as the program. And writing undoes
decoding: code without calls of listed registers decodes to a program whose words are this code,
exactly if its last instruction is not cut short. -/
theorem decoding_and_writing_are_inverse :
    (∀ program : List Writable,
      decode (Writable.written program) = program.map Subtype.val) ∧
    ∀ words : List UInt16, (∀ kind args method, .call kind args method ∉ decode words) →
      ∃ program : List Writable, program.map Subtype.val = decode words ∧
        (Writable.written program = words ↔ totalWidth (decode words) = words.length) := by
  refine ⟨Writable.decode_written, ?_⟩
  intro words hlisted
  obtain ⟨program, hprogram, hwhole⟩ := Writable.exists_program hlisted
  refine ⟨program, hprogram, fun hwritten => ?_, hwhole⟩
  rw [← hprogram, ← Writable.length_written, hwritten]

/-- The least number of each width, a string, a call on three registers and a return. -/
def leastNumbers : List Writable :=
  [⟨.load .nibble 2 (-8), by decide, by decide, by decide⟩,
    ⟨.load .half 1 (-0x8000), by decide, by decide⟩,
    ⟨.load .full 0 (-0x80000000), by decide, by decide⟩,
    ⟨.loadString 3 7, trivial⟩,
    ⟨.callRange .virtual 3 2 5, trivial⟩,
    ⟨.other 0x0E, rfl⟩]

/-- The numbers come back with their signs, and the words come back as they were. -/
theorem leastNumbers_decoded_and_written_back :
    let words : List UInt16 := [0x8212, 0x0113, 0x8000, 0x0014, 0, 0x8000, 0x031A, 7, 0x0374, 5, 2, 0x0E]
    decode words = [.load .nibble 2 (-8), .load .half 1 (-0x8000), .load .full 0 (-0x80000000),
        .loadString 3 7, .callRange .virtual 3 2 5, .other 0x0E] ∧
      ∃ program : List Writable, program.map Subtype.val = decode words ∧
        Writable.written program = words := by
  intro words
  obtain ⟨hdecoding, hwriting⟩ := decoding_and_writing_are_inverse
  have hwords : Writable.written leastNumbers = words := rfl
  have hdecode : decode words = leastNumbers.map Subtype.val := by
    rw [← hwords]
    exact hdecoding leastNumbers
  obtain ⟨program, hprogram, hwhole⟩ := hwriting words (by simp [hdecode, leastNumbers])
  exact ⟨hdecode, program, hprogram, hwhole.mpr (by rw [hdecode]; rfl)⟩

end AppSurvey.Dex
