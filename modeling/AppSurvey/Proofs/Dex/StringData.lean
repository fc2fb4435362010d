import AppSurvey.Proofs.Dex.Layout

/-!
# Which strings are read back

A file holds its strings in modified UTF-8 and reads them as UTF-8. The two forms differ for U+0000 and for the
characters above U+FFFF, and for these they share no byte sequence. So a string without such a character is read
back, and one with such a character is refused where the first of them stands. No string is read as another one.
-/

namespace AppSurvey.Dex

open Reader

/-- The table of strings leads from a number to a text. -/
structure File.HoldsString (file : File) (index : Nat) (offset : UInt32) (text : String) : Prop where
  index_lt : index < file.header.strings.size.toNat
  entry : Holds file.image (file.header.strings.offset.toNat + index * 4) (dwordBytes offset)
  textAt : TextAt file.image offset text

namespace File.HoldsString

variable {file : File} {index : Nat} {offset : UInt32} {text : String}

theorem string_eq_decode (hholds : file.HoldsString index offset text) :
    file.string index = (Utf8.decode (ModifiedUtf8.encode text)).mapError Fault.badText := by
  have hitem : file.item .strings index dword = .ok offset := by
    change (if file.header.strings.size.toNat ≤ index then _ else dword.readAt file.image _) = _
    rw [if_neg (Nat.not_le.mpr hholds.index_lt)]
    exact (reads_dword offset).readAt hholds.entry
  rw [File.string, hitem, ← textAt_eq_decode hholds.textAt]
  rfl

theorem string_eq_ok_iff (hholds : file.HoldsString index offset text) {other : String} :
    file.string index = .ok other ↔ other = text ∧ ModifiedUtf8.IsPlain text := by
  rw [hholds.string_eq_decode, ← ModifiedUtf8.decode_encode_eq_ok_iff]
  cases Utf8.decode (ModifiedUtf8.encode text) <;> simp [Except.mapError]

theorem string_of_first (hholds : file.HoldsString index offset text) {front back : List Char} {c : Char}
    (htext : text.toList = front ++ c :: back)
    (hfront : ∀ d ∈ front, 0 < d.toNat ∧ d.toNat < 0x10000) (hc : c.toNat = 0 ∨ 0x10000 ≤ c.toNat) :
    file.string index = .error (.badText (ModifiedUtf8.refusal front c)) := by
  rw [hholds.string_eq_decode, ModifiedUtf8.decode_encode_of_first htext hfront hc]
  rfl

end File.HoldsString

/-- A string of the file is read back exactly if all its characters lie in U+0001 to U+FFFF. Any other string is
refused, with the place and the first byte of the first character that does not, and never read as another. -/
theorem string_read_back_iff_plain {file : File} {index : Nat} {offset : UInt32} {text : String}
    (hholds : file.HoldsString index offset text) :
    (file.string index = .ok text ↔ ModifiedUtf8.IsPlain text) ∧
      (∀ other, file.string index = .ok other → other = text) ∧
      ∀ (front back : List Char) (c : Char), text.toList = front ++ c :: back →
        (∀ d ∈ front, 0 < d.toNat ∧ d.toNat < 0x10000) → c.toNat = 0 ∨ 0x10000 ≤ c.toNat →
        file.string index = .error (.badText (ModifiedUtf8.refusal front c)) := by
  refine ⟨?_, ?_, ?_⟩
  · rw [hholds.string_eq_ok_iff]
    simp
  · intro other hother
    exact (hholds.string_eq_ok_iff.mp hother).1
  · intro front back c htext hfront hc
    exact hholds.string_of_first htext hfront hc

/-- The header of a file with two strings. -/
def signsHeader : Header :=
  { Header.bare with fileSize := 133, strings := ⟨2, 112⟩, data := ⟨13, 120⟩ }

/-- A file with the two kinds of characters that are refused. -/
def signsFile : File where
  header := signsHeader
  image := (List.flatten [
    signsHeader.bytes, dwordBytes 120, dwordBytes 124,
    varintBytes 1, ModifiedUtf8.encode "\x00", [0],
    varintBytes 3, ModifiedUtf8.encode "a😀", [0]]).toArray

theorem signsFile_holds_zero : signsFile.HoldsString 0 120 "\x00" where
  index_lt := by decide
  entry := by decide +kernel
  textAt := ⟨1, _, by decide +kernel, isVarint_varintBytes 1, by decide +kernel⟩

theorem signsFile_holds_face : signsFile.HoldsString 1 124 "a😀" where
  index_lt := by decide
  entry := by decide +kernel
  textAt := ⟨3, _, by decide +kernel, isVarint_varintBytes 3, by decide +kernel⟩

/-- The file is opened, and neither of its strings is read back. -/
theorem signsFile_strings_refused :
    File.ofImage signsFile.image = .ok signsFile ∧
      signsFile.HoldsString 0 120 "\x00" ∧
      signsFile.string 0 = .error (.badText ⟨0, 0xC0, .start⟩) ∧
      signsFile.HoldsString 1 124 "a😀" ∧
      signsFile.string 1 = .error (.badText ⟨1, 0xED, .continuation 1⟩) := by
  have hopen : File.ofImage signsFile.image = .ok signsFile :=
    ofImage_eq rfl rfl rfl rfl (by decide +kernel)
  obtain ⟨-, -, hzero⟩ := string_read_back_iff_plain signsFile_holds_zero
  obtain ⟨-, -, hface⟩ := string_read_back_iff_plain signsFile_holds_face
  refine ⟨hopen, signsFile_holds_zero, ?_, signsFile_holds_face, ?_⟩
  · exact hzero [] [] '\x00' (by decide) (by simp) (.inl rfl)
  · exact hface ['a'] [] '😀' (by decide) (by simp) (.inr (by decide))

end AppSurvey.Dex
