import AppSurvey.Proofs.Dex.Listing
import AppSurvey.Proofs.Dex.Writing
import AppSurvey.Proofs.Text.Decimal

/-!
# The registers of a range call

A range call gives the number of its registers with 8 bits and the first of them with 16. Its record shows the
registers one by one, and its text shows the first and the last. The text is right wherever the call has a
register. The record is not: it keeps a register with 8 bits, and it has no registers at all where the range
ends at the last one there is.
-/

namespace AppSurvey.Dex

open Instruction Text

/-! ## Ranges as text -/

namespace Listing

/-- A line that shows a range of registers by its ends. -/
def rangeText (kind : RangeKind) (low high method : Nat) : String :=
  kind.mnemonic ++ (" \x7bv" ++ toString low ++ " .. v" ++ toString high ++ "\x7d") ++
    (", method@" ++ toString method)

/-- The line shows a range that consists of these registers. -/
def ShowsRange (text : String) (registers : List Nat) : Prop :=
  ∃ kind low high method, text = rangeText kind low high method ∧
    registers = List.range' low (high + 1 - low)

theorem space_notMem_mnemonic (kind : RangeKind) : ' ' ∉ kind.mnemonic.toList := by
  cases kind <;> decide

theorem ends_eq_of_rangeText_eq {kind kind' : RangeKind} {low low' high high' method method' : Nat}
    (htext : rangeText kind low high method = rangeText kind' low' high' method') :
    low = low' ∧ high = high' := by
  have hopen : " \x7bv".toList = ' ' :: "\x7bv".toList := by decide
  have hbetween : " .. v".toList = ' ' :: ".. v".toList := by decide
  have hclose : "\x7d".toList = ['\x7d'] := by decide
  have hchars := congrArg String.toList htext
  simp only [rangeText, String.toList_append, hopen, hbetween, hclose, List.append_assoc,
    List.cons_append, List.nil_append] at hchars
  -- A blank ends the name of the call and the first number, a brace the second.
  obtain ⟨-, hchars⟩ :=
    append_mark_inj (space_notMem_mnemonic kind) (space_notMem_mnemonic kind') hchars
  obtain ⟨hlow, hchars⟩ := append_mark_inj (notMem_toString (by decide) low)
    (notMem_toString (by decide) low') (List.append_cancel_left hchars)
  obtain ⟨hhigh, -⟩ := append_mark_inj (notMem_toString (by decide) high)
    (notMem_toString (by decide) high') (List.append_cancel_left hchars)
  exact ⟨toList_toString_inj hlow, toList_toString_inj hhigh⟩

theorem showsRange_rangeText_iff {kind : RangeKind} {low high method : Nat} {registers : List Nat} :
    ShowsRange (rangeText kind low high method) registers ↔
      registers = List.range' low (high + 1 - low) := by
  constructor
  · rintro ⟨_, low', high', _, htext, rfl⟩
    obtain ⟨rfl, rfl⟩ := ends_eq_of_rangeText_eq htext
    rfl
  · intro hregisters
    exact ⟨kind, low, high, method, rfl, hregisters⟩

end Listing

/-- A call with so many registers, from a first one on. -/
structure RangeCall where
  kind : RangeKind
  count : UInt8
  first : UInt16
  method : UInt16

namespace RangeCall

/-- The three words of a call. -/
def words (call : RangeCall) : List UInt16 :=
  [firstWord call.kind.code call.count, call.method, call.first]

/-- The number behind the last register. -/
def stop (call : RangeCall) : Nat :=
  call.first.toNat + call.count.toNat

/-- The registers of a call in order. -/
def registers (call : RangeCall) : List Nat :=
  List.range' call.first.toNat call.count.toNat

/-- The record of a call. -/
def listing (call : RangeCall) : Listing :=
  .ofInstruction (.callRange call.kind call.count call.first call.method)

theorem decode_words_append (call : RangeCall) (rest : List UInt16) :
    Listing.decode (call.words ++ rest) = call.listing :: Listing.decode rest := by
  have hdecode := Writable.decode_words_append
    ⟨.callRange call.kind call.count call.first call.method, trivial⟩ rest
  exact congrArg (List.map Listing.ofInstruction) hdecode

/-! ## The registers of the record -/

theorem args_listing (call : RangeCall) :
    call.listing.args.map UInt8.toNat =
      if call.stop < 65536 then call.registers.map (· % 256) else [] := by
  have hfirst := call.first.toNat_lt
  have hcount := call.count.toNat_lt
  change ((List.range' call.first.toNat (call.stop % 65536 - call.first.toNat)).map
    fun register => register.toUInt8).map UInt8.toNat = _
  unfold stop registers
  split
  next hstop =>
    rw [Nat.mod_eq_of_lt hstop, Nat.add_sub_cancel_left, List.map_map]
    apply List.map_congr_left
    intro register _
    exact UInt8.toNat_ofNat'
  next hstop =>
    -- The sum has wrapped around, so the range ends before it begins.
    have hwrapped : (call.first.toNat + call.count.toNat) % 65536 - call.first.toNat = 0 := by
      omega
    rw [hwrapped]
    rfl

theorem length_args_eq_iff (call : RangeCall) :
    call.listing.args.length = call.count.toNat ↔ call.count = 0 ∨ call.stop < 65536 := by
  have hlength := congrArg List.length call.args_listing
  rw [List.length_map] at hlength
  rw [hlength, ← UInt8.toNat_inj, UInt8.toNat_zero]
  by_cases hstop : call.stop < 65536
  · simp [hstop, registers]
  · simp [hstop, eq_comm]

theorem args_eq_nil (call : RangeCall) (hstop : 65536 ≤ call.stop) : call.listing.args = [] := by
  have hargs := call.args_listing
  rwa [if_neg (Nat.not_lt.mpr hstop), List.map_eq_nil_iff] at hargs

theorem toNat_arg (call : RangeCall) {place : Nat} {arg : UInt8}
    (harg : call.listing.args[place]? = some arg) :
    arg.toNat = (call.first.toNat + place) % 256 := by
  have hshown : (call.listing.args.map UInt8.toNat)[place]? = some arg.toNat := by
    rw [List.getElem?_map, harg, Option.map_some]
  rw [args_listing] at hshown
  split at hshown
  next =>
    rw [List.getElem?_map, Option.map_eq_some_iff] at hshown
    obtain ⟨register, hregister, hvalue⟩ := hshown
    obtain ⟨hplace, hregister⟩ := List.getElem?_eq_some_iff.mp hregister
    simp only [registers, List.getElem_range', Nat.one_mul] at hregister
    rw [← hvalue, ← hregister]
  next => cases hshown

theorem args_eq_registers_iff (call : RangeCall) :
    call.listing.args.map UInt8.toNat = call.registers ↔ call.count = 0 ∨ call.stop ≤ 256 := by
  have hfirst := call.first.toNat_lt
  have hcount := call.count.toNat_lt
  rw [args_listing, ← UInt8.toNat_inj, UInt8.toNat_zero]
  by_cases hstop : call.stop < 65536
  · have hkept : call.registers.map (· % 256) = call.registers.map id ↔
        ∀ register ∈ call.registers, register % 256 = register := List.map_inj_left
    rw [if_pos hstop]
    rw [List.map_id] at hkept
    rw [hkept]
    simp only [registers, stop, List.mem_range'_1]
    constructor
    · intro hall
      by_cases hnone : call.count.toNat = 0
      · exact .inl hnone
      · -- If the last register is kept, it has 8 bits, and so have those before it.
        have hlast := hall (call.first.toNat + call.count.toNat - 1) (by omega)
        omega
    · intro hsmall register hregister
      omega
  · rw [if_neg hstop, registers, eq_comm, List.range'_eq_nil_iff]
    unfold stop at hstop ⊢
    omega

/-! ## The registers of the text -/

theorem raw_listing (call : RangeCall) :
    call.listing.raw = Listing.rangeText call.kind call.first.toNat
      (rangeLast call.count call.first) call.method.toNat :=
  Listing.raw_ofInstruction _

theorem showsRange_raw_iff (call : RangeCall) :
    Listing.ShowsRange call.listing.raw call.registers ↔
      call.count ≠ 0 ∧ call.stop ≤ 65536 ∨ call.count = 0 ∧ call.first ≠ 0 := by
  have hfirst := call.first.toNat_lt
  have hcount := call.count.toNat_lt
  rw [raw_listing, Listing.showsRange_rangeText_iff, Ne, Ne, ← UInt8.toNat_inj, ← UInt16.toNat_inj,
    UInt8.toNat_zero, UInt16.toNat_zero]
  unfold registers rangeLast stop
  constructor
  · intro hregisters
    have hlength := congrArg List.length hregisters
    simp only [List.length_range'] at hlength
    omega
  · intro hends
    congr 1
    omega

end RangeCall

/-- The words of a range call are decoded as one record of its kind and method. The record has as many registers
as the call, unless the range ends at the last register there is or goes beyond it; then it has none. Of each
register it has what 8 bits hold, so that it shows the registers of the call exactly if there are none or all lie
below 256. Its text shows them wherever there is one. -/
theorem range_registers_shown_iff (call : RangeCall) (rest : List UInt16) :
    ∃ listing, Listing.decode (call.words ++ rest) = listing :: Listing.decode rest ∧
      listing.opcode = call.kind.mnemonic ∧ listing.method = some call.method ∧
      (listing.args.length = call.count.toNat ↔ call.count = 0 ∨ call.stop < 65536) ∧
      (65536 ≤ call.stop → listing.args = []) ∧
      (∀ (place : Nat) (arg : UInt8), listing.args[place]? = some arg →
        arg.toNat = (call.first.toNat + place) % 256) ∧
      (listing.args.map UInt8.toNat = call.registers ↔ call.count = 0 ∨ call.stop ≤ 256) ∧
      (Listing.ShowsRange listing.raw call.registers ↔
        call.count ≠ 0 ∧ call.stop ≤ 65536 ∨ call.count = 0 ∧ call.first ≠ 0) :=
  ⟨call.listing, call.decode_words_append rest, rfl, rfl, call.length_args_eq_iff,
    call.args_eq_nil, fun _ _ harg => call.toNat_arg harg, call.args_eq_registers_iff, call.showsRange_raw_iff⟩

/-- A call on the first two registers that need more than 8 bits. -/
def callPast255 : RangeCall := ⟨.virtual, 2, 256, 5⟩

/-- A call on the last two registers there are. -/
def callOnLast : RangeCall := ⟨.static, 2, 0xFFFE, 6⟩

/-- Both texts show the two registers. One record has registers zero and one in their place, the other has none. -/
theorem callPast255_and_callOnLast_lose_registers :
    ∃ past last, Listing.decode [0x0274, 5, 256, 0x0277, 6, 0xFFFE] = [past, last] ∧
      Listing.ShowsRange past.raw [256, 257] ∧ past.args.length = 2 ∧
      (∀ arg, past.args[0]? = some arg → arg.toNat = 0) ∧
      past.args.map UInt8.toNat ≠ [256, 257] ∧
      Listing.ShowsRange last.raw [65534, 65535] ∧ last.args = [] := by
  obtain ⟨past, hpast, -, -, hlength, -, harg, hkept, hshown⟩ :=
    range_registers_shown_iff callPast255 callOnLast.words
  obtain ⟨last, hlast, -, -, -, hnone, -, -, hshown'⟩ := range_registers_shown_iff callOnLast []
  have hend : Listing.decode [] = [] := by simp [Listing.decode, decode]
  rw [List.append_nil, hend] at hlast
  refine ⟨past, last, ?_, hshown.mpr (by decide), hlength.mpr (by decide), fun arg => harg 0 arg, ?_,
    hshown'.mpr (by decide), hnone (by decide)⟩
  · rw [← hlast]
    exact hpast
  · exact fun hall => absurd (hkept.mp hall) (by decide)

end AppSurvey.Dex
