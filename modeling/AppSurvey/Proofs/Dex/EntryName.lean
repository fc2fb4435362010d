import AppSurvey.Dex.EntryName
import AppSurvey.Proofs.Text.Decimal
import AppSurvey.Proofs.Text.Search

/-!
# The numbers of DEX files

The number of a DEX file is what stands between `classes` and `.dex` in its name. Both are looked for on
their own and the number is cut out by positions in bytes; it is found in every name all the same, because a
dot begins `.dex` and there is none in `classes`, so the two never overlap.
-/

namespace AppSurvey.Dex.EntryName

open Text

/-! ## Numbers of 64 bits -/

/-- Digits are read up to their end exactly if no number on the way is too large, and the last one is the
largest. -/
theorem word64From_eq_some_iff {value k : Nat} {digits : List Char} (hvalue : value < UInt64.size) :
    word64From value digits = some k ↔
      (∀ c ∈ digits, c.isDigit = true) ∧ Nat.ofDigitChars 10 digits value = k ∧ k < UInt64.size := by
  induction digits generalizing value with
  | nil =>
      rw [word64From, Option.some_inj, Nat.ofDigitChars_nil]
      constructor
      · rintro rfl
        exact ⟨by simp, rfl, hvalue⟩
      · exact fun h => h.2.1
  | cons c rest ih =>
      rw [word64From, digit?_eq, Nat.ofDigitChars_cons, Nat.mul_comm 10 value, List.forall_mem_cons]
      by_cases hc : c.isDigit = true
      · rw [if_pos hc, Option.bind_some]
        split
        next hnext => rw [ih hnext, and_iff_right hc]
        next hnext =>
          have hle := le_ofDigitChars rest (value * 10 + (c.toNat - '0'.toNat))
          constructor
          · intro hread
            cases hread
          · rintro ⟨-, rfl, hlt⟩
            omega
      · rw [if_neg hc]
        constructor
        · intro hread
          cases hread
        · exact fun h => absurd h.1.1 hc

/-- A number of at most 64 bits is written with these characters, the first of which may be a plus sign. -/
structure IsWord64 (sign digits : List Char) (k : Nat) : Prop where
  sign : sign = [] ∨ sign = ['+']
  nonempty : digits ≠ []
  isDigit : ∀ c ∈ digits, c.isDigit = true
  value : Nat.ofDigitChars 10 digits 0 = k
  fits : k < UInt64.size

theorem isWord64_iff {sign digits : List Char} {k : Nat} (hsign : sign = [] ∨ sign = ['+']) :
    (if digits.isEmpty = true then none else word64From 0 digits) = some k ↔ IsWord64 sign digits k := by
  by_cases hempty : digits = []
  · rw [if_pos (List.isEmpty_iff.mpr hempty)]
    constructor
    · intro hread
      cases hread
    · exact fun hword => absurd hempty hword.nonempty
  · rw [if_neg (mt List.isEmpty_iff.mp hempty), word64From_eq_some_iff (by decide)]
    constructor
    · rintro ⟨hdigits, hvalue, hfits⟩
      exact ⟨hsign, hempty, hdigits, hvalue, hfits⟩
    · exact fun hword => ⟨hword.isDigit, hword.value, hword.fits⟩

theorem word64?_of_no_sign {text : List Char} (hplain : ∀ rest, text ≠ '+' :: rest) :
    word64? text = if text.isEmpty = true then none else word64From 0 text := by
  unfold word64?
  split
  next rest => exact absurd rfl (hplain rest)
  next => rfl

theorem word64?_eq_some_iff {text : List Char} {k : Nat} :
    word64? text = some k ↔ ∃ sign digits, text = sign ++ digits ∧ IsWord64 sign digits k := by
  constructor
  · intro hread
    by_cases hplus : ∃ rest, text = '+' :: rest
    · obtain ⟨rest, rfl⟩ := hplus
      exact ⟨['+'], rest, rfl, (isWord64_iff (.inr rfl)).mp hread⟩
    · rw [word64?_of_no_sign (not_exists.mp hplus)] at hread
      exact ⟨[], text, rfl, (isWord64_iff (.inl rfl)).mp hread⟩
  · rintro ⟨sign, digits, rfl, hword⟩
    rcases hword.sign with rfl | rfl
    · rw [List.nil_append, word64?_of_no_sign]
      · exact (isWord64_iff (.inl rfl)).mpr hword
      · rintro rest rfl
        exact absurd (hword.isDigit '+' List.mem_cons_self) (by decide)
    · exact (isWord64_iff (.inr rfl)).mpr hword

/-- Every number of 64 bits is read from its digits. -/
theorem isWord64_toString {n : Nat} (hn : n < UInt64.size) : IsWord64 [] (toString n).toList n where
  sign := .inl rfl
  nonempty := by
    rw [Nat.toString_eq_ofList_toDigits, String.toList_ofList]
    exact Nat.toDigits_ne_nil
  isDigit := fun _ hc => isDigit_of_mem_toString hc
  value := by
    rw [Nat.toString_eq_ofList_toDigits, String.toList_ofList]
    exact Nat.ofDigitChars_toDigits (by decide) (by decide)
  fits := hn

/-! ## Names -/

/-- Where a name begins and ends as it should, what stands between is read. -/
theorem number_of_middle {name : String} {middle : List Char} (hother : name ≠ primary)
    (hname : name.toList = "classes".toList ++ middle ++ ".dex".toList) :
    number name = .ok (word64? middle) := by
  have hprimary : isPrimary name = false := beq_eq_false_iff_ne.mpr hother
  have hstart : startsWith name "classes" = true :=
    List.isPrefixOf_iff_prefix.mpr ⟨middle ++ ".dex".toList, by rw [hname, List.append_assoc]⟩
  have hend : endsWith name ".dex" = true :=
    List.isSuffixOf_iff_suffix.mpr ⟨"classes".toList ++ middle, hname.symm⟩
  have hlast : byteCount name.toList - 4 = byteCount ("classes".toList ++ middle) := by
    rw [hname, byteCount_append]
    rfl
  have hcut : between? 7 (byteCount name.toList - 4) name.toList = some middle := by
    rw [hlast, hname]
    exact between?_append "classes".toList middle ".dex".toList
  simp only [number, hprimary, hstart, hend, hcut]
  rfl

/-- Every other name has no number. -/
theorem number_of_no_middle {name : String}
    (hname : ¬ ∃ middle, name.toList = "classes".toList ++ middle ++ ".dex".toList) :
    number name = .ok none := by
  have hprimary : isPrimary name = false := by
    refine beq_eq_false_iff_ne.mpr ?_
    rintro rfl
    exact hname ⟨[], rfl⟩
  have hparts : ¬ (startsWith name "classes" && endsWith name ".dex") = true := by
    intro hparts
    rw [Bool.and_eq_true] at hparts
    obtain ⟨hstart, hend⟩ := hparts
    exact hname (exists_middle (by decide) (List.isPrefixOf_iff_prefix.mp hstart)
      (List.isSuffixOf_iff_suffix.mp hend))
  rw [number, hprimary, if_neg (by decide), if_neg hparts]

theorem number_primary : number primary = .ok (some 1) := by
  rw [number, if_pos (by decide)]

/-- A name that is not the first one has a number exactly if one is written in it. -/
theorem number_eq_some_iff {name : String} (hother : name ≠ primary) {k : Nat} :
    number name = .ok (some k) ↔
      ∃ sign digits, name.toList = "classes".toList ++ (sign ++ digits) ++ ".dex".toList ∧
        IsWord64 sign digits k := by
  constructor
  · intro hnumber
    by_cases hmiddle : ∃ middle, name.toList = "classes".toList ++ middle ++ ".dex".toList
    · obtain ⟨middle, hname⟩ := hmiddle
      rw [number_of_middle hother hname, Except.ok.injEq, word64?_eq_some_iff] at hnumber
      obtain ⟨sign, digits, rfl, hword⟩ := hnumber
      exact ⟨sign, digits, hname, hword⟩
    · rw [number_of_no_middle hmiddle] at hnumber
      cases hnumber
  · rintro ⟨sign, digits, hname, hword⟩
    rw [number_of_middle hother hname, word64?_eq_some_iff.mpr ⟨sign, digits, rfl, hword⟩]

/-- Every name is cut between two characters, if at all. `classes.dex` has the number one, and a number of
at most 64 bits between `classes` and `.dex` is the number of its file. Any other name has a number only if
that is written between the two, with nothing but digits behind an optional plus sign. -/
theorem entry_numbers_read_exactly (name : String) :
    (∃ answer, number name = .ok answer) ∧
      (name = "classes.dex" → number name = .ok (some 1)) ∧
      (∀ n < UInt64.size, name = "classes" ++ toString n ++ ".dex" → number name = .ok (some n)) ∧
      (name ≠ "classes.dex" → ∀ k, number name = .ok (some k) ↔
        ∃ sign digits, name.toList = "classes".toList ++ (sign ++ digits) ++ ".dex".toList ∧
          IsWord64 sign digits k) := by
  refine ⟨?_, ?_, fun n hn hname => ?_, fun hother k => number_eq_some_iff hother⟩
  · by_cases hprimary : name = primary
    · exact ⟨_, hprimary ▸ number_primary⟩
    · by_cases hmiddle : ∃ middle, name.toList = "classes".toList ++ middle ++ ".dex".toList
      · obtain ⟨middle, hname⟩ := hmiddle
        exact ⟨_, number_of_middle hprimary hname⟩
      · exact ⟨_, number_of_no_middle hmiddle⟩
  · rintro rfl
    exact number_primary
  · have hword := isWord64_toString hn
    have hchars : name.toList = "classes".toList ++ ([] ++ (toString n).toList) ++ ".dex".toList := by
      rw [hname, String.toList_append, String.toList_append, List.nil_append]
    have hother : name ≠ primary := by
      rintro rfl
      have hnone : "classes".toList ++ [] = "classes".toList ++ ([] ++ (toString n).toList) :=
        List.append_cancel_right hchars
      exact hword.nonempty (List.append_cancel_left hnone).symm
    exact (number_eq_some_iff hother).mpr ⟨[], _, hchars, hword⟩

/-- The largest number, a number with a plus sign and a zero in front, and one that has no room. -/
theorem largest_and_signed_numbers_read :
    number "classes18446744073709551615.dex" = .ok (some 18446744073709551615) ∧
      number "classes+07.dex" = .ok (some 7) ∧
      number "classes18446744073709551616.dex" ≠ .ok (some 18446744073709551616) := by
  obtain ⟨-, -, hlargest, -⟩ := entry_numbers_read_exactly "classes18446744073709551615.dex"
  obtain ⟨-, -, -, hsigned⟩ := entry_numbers_read_exactly "classes+07.dex"
  obtain ⟨-, -, -, hbeyond⟩ := entry_numbers_read_exactly "classes18446744073709551616.dex"
  refine ⟨hlargest _ (by decide) (by decide), ?_, fun hnumber => ?_⟩
  · have hdigits : ∀ c ∈ ['0', '7'], c.isDigit = true :=
      List.forall_mem_cons.mpr ⟨rfl, List.forall_mem_singleton.mpr rfl⟩
    exact (hsigned (by decide) 7).mpr
      ⟨['+'], ['0', '7'], by decide, .inr rfl, by decide, hdigits, rfl, by decide⟩
  · obtain ⟨sign, digits, -, hword⟩ := (hbeyond (by decide) _).mp hnumber
    exact absurd hword.fits (by decide)

end AppSurvey.Dex.EntryName
