import AppSurvey.Dex.Expression
import AppSurvey.Proofs.Dex.Instruction

/-!
# What the registers hold

The registers are kept from one method to the next, so what they hold at some moment of a run is told
by all instructions decoded before it, in this method and in the earlier ones. A register holds what
the last load into it has loaded, and nothing else ever changes one. `Site.Loads` says what a load
loads in terms of the bits of its words, and `LastLoad` what a history of instructions leaves behind;
`Site.Calls` says in the same terms what a call calls, and with which registers.
-/

namespace AppSurvey.Dex

open Instruction

/-! ## Writing registers -/

/-- What an instruction loads, and into which register. -/
def Instruction.loaded? (file : File) : Instruction → Option (UInt8 × RegisterValue)
  | .load _ dest value => some (dest, .int value)
  | .loadString dest index => some (dest, Registers.stringValue file index)
  | _ => none

namespace Registers

theorem stringValue_ok {file : File} {index : UInt16} {text : String}
    (htext : file.string index.toNat = .ok text) :
    stringValue file index = .string text := by
  rw [stringValue, htext]

theorem stringValue_error {file : File} {index : UInt16} {fault : Fault}
    (hfault : file.string index.toNat = .error fault) :
    stringValue file index = .unknown := by
  rw [stringValue, hfault]

theorem lookup_filter {register other : UInt8} (hother : other ≠ register)
    (entries : List (UInt8 × RegisterValue)) :
    (entries.filter fun entry => entry.1 != register).lookup other = entries.lookup other := by
  have hbeq : (other == register) = false := beq_eq_false_iff_ne.mpr hother
  induction entries with
  | nil => rfl
  | cons entry rest ih =>
      obtain ⟨key, value⟩ := entry
      by_cases hkey : key = register
      · simp [hkey, List.lookup_cons, ih, hbeq]
      · simp [hkey, List.lookup_cons, ih]

theorem get?_set (registers : Registers) (register other : UInt8) (value : RegisterValue) :
    (registers.set register value).get? other =
      if other = register then some value else registers.get? other := by
  unfold set get?
  rw [List.lookup_cons]
  by_cases hother : other = register
  · simp [hother]
  · rw [if_neg hother, beq_eq_false_iff_ne.mpr hother]
    exact lookup_filter hother registers.entries

theorem step_eq (file : File) (registers : Registers) (instruction : Instruction) :
    registers.step file instruction =
      match loaded? file instruction with
      | some (register, value) => registers.set register value
      | none => registers := by
  cases instruction <;> rfl

end Registers

/-! ## Where instructions stand -/

/-- A place where decoding reads an instruction: its first word, and all the words behind it. -/
structure Site where
  word : UInt16
  behind : List UInt16

namespace Site

/-- The instruction that is read there. -/
def instruction (site : Site) : Instruction :=
  read site.word site.behind

/-- The places of the instructions of a method. -/
def sites : List UInt16 → List Site
  | [] => []
  | word :: behind => ⟨word, behind⟩ :: sites (behind.drop ((shape word).width - 1))
termination_by words => words.length
decreasing_by simp only [List.length_drop, List.length_cons]; omega

theorem map_instruction_sites (words : List UInt16) :
    (sites words).map instruction = decode words := by
  induction words using sites.induct with
  | case1 => simp [sites, decode]
  | case2 word behind ih =>
      rw [sites, List.map_cons, ih, decode_cons]
      rfl

/-- An operand word, zero where the method has ended. -/
def operand (site : Site) (place : Nat) : UInt16 :=
  site.behind.getD place 0

/-- The number in the two operand words, zero unless both are there. -/
def fullLiteral (site : Site) : Int :=
  match site.behind with
  | low :: high :: _ => (high.toBitVec ++ low.toBitVec).toInt
  | _ => 0

/-- The instruction loads a value into a register. Numbers are in two's complement: four bits of the
first word, an operand word, or two of them. A string that cannot be read leaves an unknown value. -/
inductive Loads (file : File) (site : Site) : UInt8 → RegisterValue → Prop
  | nibble (hcode : opcode site.word = 0x12) :
      Loads file site (nibble site.word 2).toUInt8
        (.int (site.word.toBitVec.extractLsb' 12 4).toInt)
  | half (hcode : opcode site.word = 0x13) :
      Loads file site (highByte site.word) (.int (site.operand 0).toBitVec.toInt)
  | full (hcode : opcode site.word = 0x14) :
      Loads file site (highByte site.word) (.int site.fullLiteral)
  | text {text : String} (hcode : opcode site.word = 0x1A)
      (htext : file.string (site.operand 0).toNat = .ok text) :
      Loads file site (highByte site.word) (.string text)
  | noText {fault : Fault} (hcode : opcode site.word = 0x1A)
      (hfault : file.string (site.operand 0).toNat = .error fault) :
      Loads file site (highByte site.word) .unknown

theorem toInt_extract_nibble (word : UInt16) :
    (word.toBitVec.extractLsb' 12 4).toInt = Int.bmod (Instruction.nibble word 3) 16 := by
  rw [BitVec.toInt_eq_toNat_bmod, BitVec.extractLsb'_toNat, Nat.shiftRight_eq_div_pow]
  rfl

theorem toInt_word (word : UInt16) : word.toBitVec.toInt = Int.bmod word.toNat 0x10000 :=
  BitVec.toInt_eq_toNat_bmod _

theorem toNat_append_words (high low : UInt16) :
    (high.toBitVec ++ low.toBitVec).toNat = low.toNat + 65536 * high.toNat := by
  have hlow : low.toBitVec.toNat < 2 ^ 16 := low.toBitVec.isLt
  rw [BitVec.toNat_append, ← Nat.shiftLeft_add_eq_or_of_lt hlow, Nat.shiftLeft_eq]
  simp only [UInt16.toNat_toBitVec]
  omega

theorem toInt_append_words (high low : UInt16) :
    (high.toBitVec ++ low.toBitVec).toInt =
      Int.bmod (low.toNat + 65536 * high.toNat) 0x100000000 := by
  rw [BitVec.toInt_eq_toNat_bmod, toNat_append_words, Int.natCast_add, Int.natCast_mul]
  simp only [Nat.reduceAdd, Nat.reducePow, Int.cast_ofNat_Int]

theorem fullLiteral_eq (site : Site) : site.fullLiteral = fullValue site.behind := by
  unfold fullLiteral fullValue
  rcases site.behind with _ | ⟨low, _ | ⟨high, rest⟩⟩
  · dsimp only
  · dsimp only
  · exact toInt_append_words high low

theorem loads_iff {file : File} {site : Site} {register : UInt8} {value : RegisterValue} :
    site.Loads file register value ↔ loaded? file site.instruction = some (register, value) := by
  rw [instruction, read_eq, shape]
  constructor
  · intro hloads
    cases hloads with
    | nibble hcode =>
        rw [hcode, toInt_extract_nibble]
        rfl
    | half hcode =>
        rw [hcode, toInt_word]
        rfl
    | full hcode =>
        rw [hcode, fullLiteral_eq]
        rfl
    | text hcode htext =>
        rw [hcode]
        exact congrArg (fun value => some (highByte site.word, value)) (Registers.stringValue_ok htext)
    | noText hcode hfault =>
        rw [hcode]
        exact congrArg (fun value => some (highByte site.word, value)) (Registers.stringValue_error hfault)
  · generalize hcode : (opcode site.word).toNat = code
    intro hloaded
    -- The loads are the first four opcodes in the list; all others load nothing.
    fun_cases Shape.ofCode code
    case case1 =>
      cases hloaded
      rw [← toInt_extract_nibble]
      exact .nibble (UInt8.toNat_inj.mp hcode)
    case case2 =>
      cases hloaded
      rw [← toInt_word]
      exact .half (UInt8.toNat_inj.mp hcode)
    case case3 =>
      cases hloaded
      rw [← fullLiteral_eq]
      exact .full (UInt8.toNat_inj.mp hcode)
    case case4 =>
      cases hloaded
      change site.Loads file (highByte site.word) (Registers.stringValue file (site.operand 0))
      cases hstring : file.string (site.operand 0).toNat with
      | ok text =>
          rw [Registers.stringValue_ok hstring]
          exact .text (UInt8.toNat_inj.mp hcode) hstring
      | error fault =>
          rw [Registers.stringValue_error hstring]
          exact .noText (UInt8.toNat_inj.mp hcode) hstring
    case case12 => simp_all [Shape.ofCode, Shape.instruction, loaded?]
    all_goals cases hloaded

/-- The instruction calls a method with listed operands. The first word has the opcode of a call, the number
of operands in its highest four bits and the first operand in the four bits below them. The word behind it is
the number of the method, and the word behind that has the other operands, lowest bits first. -/
structure Calls (site : Site) (operands : List UInt8) (method : UInt16) : Prop where
  code : opcode site.word ∈ [0x6E, 0x6F, 0x70, 0x71, 0x72]
  length_eq : operands.length = (site.word.toBitVec.extractLsb' 12 4).toNat
  first : ∀ operand, operands[0]? = some operand →
    operand.toNat = (site.word.toBitVec.extractLsb' 8 4).toNat
  others : ∀ place operand, operands[place + 1]? = some operand →
    operand.toNat = ((site.operand 1).toBitVec.extractLsb' (4 * place) 4).toNat
  method_eq : method = site.operand 0

theorem toNat_extract_nibble (word : UInt16) (place : Nat) :
    (word.toBitVec.extractLsb' (4 * place) 4).toNat = Instruction.nibble word place := by
  rw [BitVec.extractLsb'_toNat, Nat.shiftRight_eq_div_pow, Nat.pow_mul]
  rfl

/-- The fifth operand behind the first one and all later ones are zero, for want of bits. -/
theorem toNat_argument (word registers : UInt16) (place : Nat) :
    (argument word registers (place + 1)).toNat = Instruction.nibble registers place := by
  rw [argument]
  split
  next => exact toNat_nibble registers place
  next hplace =>
    have hfour : Nat.pow 16 4 ≤ Nat.pow 16 place :=
      Nat.pow_le_pow_right (by decide) (Nat.not_lt.mp hplace)
    rw [Instruction.nibble, Nat.div_eq_of_lt (Nat.lt_of_lt_of_le registers.toNat_lt hfour)]
    rfl

theorem mem_callCodes_iff {word : UInt16} :
    opcode word ∈ [0x6E, 0x6F, 0x70, 0x71, 0x72] ↔ ∃ kind, shape word = .call kind := by
  constructor
  · intro hcode
    simp only [List.mem_cons, List.not_mem_nil, or_false] at hcode
    unfold shape
    rcases hcode with hcode | hcode | hcode | hcode | hcode
    · exact ⟨.virtual, by rw [hcode]; rfl⟩
    · exact ⟨.super, by rw [hcode]; rfl⟩
    · exact ⟨.direct, by rw [hcode]; rfl⟩
    · exact ⟨.static, by rw [hcode]; rfl⟩
    · exact ⟨.interface, by rw [hcode]; rfl⟩
  · rintro ⟨kind, hshape⟩
    have hcode : (shape word).code? = some kind.code := by rw [hshape]; rfl
    rw [UInt8.toNat_inj.mp (Shape.eq_of_code?_ofCode hcode)]
    cases kind <;> decide

theorem instruction_eq_call_iff {site : Site} {kind : CallKind} {operands : List UInt8}
    {method : UInt16} :
    site.instruction = .call kind operands method ↔
      shape site.word = .call kind ∧ method = site.operand 0 ∧
        operands = (List.range (Instruction.nibble site.word 3)).map
          (argument site.word (site.operand 1)) := by
  rw [instruction, read_eq]
  cases shape site.word with
  | load width => cases width <;> simp [Shape.instruction]
  | call other =>
      simp only [Shape.instruction, readCall, Instruction.call.injEq, Shape.call.injEq, operand]
      grind
  | _ => simp [Shape.instruction, readRange]

theorem eq_arguments_iff {word registers : UInt16} {operands : List UInt8} :
    operands = (List.range (Instruction.nibble word 3)).map (argument word registers) ↔
      operands.length = Instruction.nibble word 3 ∧
        ∀ place operand, operands[place]? = some operand → operand = argument word registers place := by
  constructor
  · rintro rfl
    refine ⟨by simp, fun place operand hplace => ?_⟩
    obtain ⟨hlength, rfl⟩ := List.getElem?_eq_some_iff.mp hplace
    simp
  · rintro ⟨hlength, hoperands⟩
    refine List.ext_getElem (by simpa using hlength) fun place hplace _ => ?_
    simpa using hoperands place operands[place] (List.getElem?_eq_getElem hplace)

/-- The bits say what decoding reads. -/
theorem calls_iff {site : Site} {operands : List UInt8} {method : UInt16} :
    site.Calls operands method ↔ ∃ kind, site.instruction = .call kind operands method := by
  have hfirst (operand : UInt8) : operand.toNat = (site.word.toBitVec.extractLsb' 8 4).toNat ↔
      operand = argument site.word (site.operand 1) 0 := by
    rw [toNat_extract_nibble site.word 2, ← UInt8.toNat_inj, argument, toNat_nibble]
  have hothers (place : Nat) (operand : UInt8) :
      operand.toNat = ((site.operand 1).toBitVec.extractLsb' (4 * place) 4).toNat ↔
        operand = argument site.word (site.operand 1) (place + 1) := by
    rw [toNat_extract_nibble, ← UInt8.toNat_inj, toNat_argument]
  simp only [instruction_eq_call_iff, exists_and_right, ← mem_callCodes_iff, eq_arguments_iff]
  constructor
  · rintro ⟨hcode, hlength, hzero, hrest, hmethod⟩
    refine ⟨hcode, hmethod, hlength.trans (toNat_extract_nibble site.word 3), ?_⟩
    rintro (_ | place) operand hoperand
    · exact (hfirst operand).mp (hzero operand hoperand)
    · exact (hothers place operand).mp (hrest place operand hoperand)
  · rintro ⟨hcode, hmethod, hlength, hoperands⟩
    exact ⟨hcode, hlength.trans (toNat_extract_nibble site.word 3).symm,
      fun operand hoperand => (hfirst operand).mpr (hoperands 0 operand hoperand),
      fun place operand hoperand => (hothers place operand).mpr (hoperands _ operand hoperand), hmethod⟩

end Site

namespace Registers

/-! ## One instruction -/

theorem get?_step_eq_some {file : File} {registers : Registers} {site : Site} {register : UInt8}
    {value : RegisterValue} :
    (registers.step file site.instruction).get? register = some value ↔
      site.Loads file register value ∨
        (∀ other, ¬ site.Loads file register other) ∧ registers.get? register = some value := by
  rw [step_eq]
  simp only [Site.loads_iff]
  cases hloaded : loaded? file site.instruction with
  | none => simp
  | some load =>
      obtain ⟨dest, loaded⟩ := load
      by_cases hdest : register = dest
      · simp [get?_set, hdest]
      · simp [get?_set, hdest, Ne.symm hdest]

end Registers

/-! ## Histories -/

/-- The last load into the register was of the value. -/
def LastLoad (file : File) (history : List Site) (register : UInt8) (value : RegisterValue) : Prop :=
  ∃ before site after, history = before ++ site :: after ∧ site.Loads file register value ∧
    ∀ later ∈ after, ∀ other, ¬ later.Loads file register other

/-- The register has never been loaded. -/
def NeverLoaded (file : File) (history : List Site) (register : UInt8) : Prop :=
  ∀ site ∈ history, ∀ value, ¬ site.Loads file register value

theorem not_lastLoad_nil {file : File} {register : UInt8} {value : RegisterValue} :
    ¬ LastLoad file [] register value := by
  rintro ⟨before, site, after, hsplit, -⟩
  simp at hsplit

theorem lastLoad_cons {file : File} {site : Site} {rest : List Site} {register : UInt8}
    {value : RegisterValue} :
    LastLoad file (site :: rest) register value ↔
      LastLoad file rest register value ∨
        NeverLoaded file rest register ∧ site.Loads file register value := by
  constructor
  · rintro ⟨before, last, after, hsplit, hloads, hafter⟩
    rcases List.cons_eq_append_iff.mp hsplit with ⟨rfl, htail⟩ | ⟨front, rfl, hrest⟩
    · obtain ⟨rfl, rfl⟩ := List.cons.inj htail
      exact .inr ⟨hafter, hloads⟩
    · exact .inl ⟨front, last, after, hrest, hloads, hafter⟩
  · rintro (⟨before, last, after, rfl, hloads, hafter⟩ | ⟨hnever, hloads⟩)
    · exact ⟨site :: before, last, after, rfl, hloads, hafter⟩
    · exact ⟨[], site, rest, rfl, hloads, hnever⟩

/-- A register that has been loaded has a last load. -/
theorem neverLoaded_iff {file : File} {history : List Site} {register : UInt8} :
    NeverLoaded file history register ↔ ∀ value, ¬ LastLoad file history register value := by
  induction history with
  | nil => simp [NeverLoaded, not_lastLoad_nil]
  | cons site rest ih =>
      rw [NeverLoaded, List.forall_mem_cons, ← NeverLoaded]
      constructor
      · rintro ⟨hsite, hrest⟩ value hlast
        rcases lastLoad_cons.mp hlast with hlast | ⟨-, hloads⟩
        · exact ih.mp hrest value hlast
        · exact hsite value hloads
      · intro hnone
        have hrest : NeverLoaded file rest register :=
          ih.mpr fun value hlast => hnone value (lastLoad_cons.mpr (.inl hlast))
        exact ⟨fun value hloads => hnone value (lastLoad_cons.mpr (.inr ⟨hrest, hloads⟩)), hrest⟩

namespace Registers

theorem get?_follow_eq_some {file : File} {registers : Registers} {history : List Site}
    {register : UInt8} {value : RegisterValue} :
    (registers.follow file (history.map Site.instruction)).1.get? register = some value ↔
      LastLoad file history register value ∨
        NeverLoaded file history register ∧ registers.get? register = some value := by
  induction history generalizing registers with
  | nil => simp [follow, not_lastLoad_nil, NeverLoaded]
  | cons site rest ih =>
      rw [List.map_cons, follow]
      dsimp only
      rw [ih, get?_step_eq_some, lastLoad_cons, NeverLoaded, NeverLoaded, List.forall_mem_cons]
      constructor
      · rintro (hlast | ⟨hnever, hloads | ⟨hnot, hheld⟩⟩)
        · exact .inl (.inl hlast)
        · exact .inl (.inr ⟨hnever, hloads⟩)
        · exact .inr ⟨⟨hnot, hnever⟩, hheld⟩
      · rintro ((hlast | ⟨hnever, hloads⟩) | ⟨⟨hnot, hnever⟩, hheld⟩)
        · exact .inl hlast
        · exact .inr ⟨hnever, .inl hloads⟩
        · exact .inr ⟨hnever, .inr ⟨hnot, hheld⟩⟩

theorem follow_append (file : File) (registers : Registers) (first rest : List Instruction) :
    registers.follow file (first ++ rest) =
      (((registers.follow file first).1.follow file rest).1,
        (registers.follow file first).2 ++ ((registers.follow file first).1.follow file rest).2) := by
  induction first generalizing registers with
  | nil => simp [follow]
  | cons instruction first ih => simp [follow, ih]

end Registers

end AppSurvey.Dex
