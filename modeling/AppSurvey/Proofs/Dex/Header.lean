import AppSurvey.Proofs.Dex.Layout

/-!
# Headers that are rejected

An image is refused for one of three reasons: it is shorter than a header, it does not begin with the mark
of the format, or its header announces another size than its own. Every other image of at least that size
is a DEX file, since any bytes make the remaining parts of a header.
-/

namespace AppSurvey.Dex

open Reader

/-! ## Any bytes are a header -/

theorem exists_holds {image : Image} {position n : Nat} (hsize : position + n ≤ image.size) :
    ∃ bytes : List UInt8, bytes.length = n ∧ Holds image position bytes := by
  induction n generalizing position with
  | zero => exact ⟨[], rfl, trivial⟩
  | succ n ih =>
      obtain ⟨rest, hlength, hrest⟩ := ih (show position + 1 + n ≤ image.size by omega)
      refine ⟨image[position] :: rest, by simp [hlength], ?_, hrest⟩
      exact Array.getElem?_eq_getElem (by omega)

theorem holds_unique {image : Image} {position : Nat} {first second : List UInt8}
    (hfirst : Holds image position first) (hsecond : Holds image position second)
    (hlength : first.length = second.length) : first = second := by
  induction first generalizing position second with
  | nil => exact (List.eq_nil_of_length_eq_zero hlength.symm).symm
  | cons b rest ih =>
      cases second with
      | nil => cases hlength
      | cons b' rest' =>
          obtain ⟨hb, hrest⟩ := hfirst
          obtain ⟨hb', hrest'⟩ := hsecond
          rw [hb, Option.some.injEq] at hb'
          rw [hb', ih hrest hrest' (by simpa using hlength)]

theorem exists_dwordBytes {bytes : List UInt8} (hlength : bytes.length = 4) :
    ∃ n, dwordBytes n = bytes := by
  obtain ⟨a, b, c, d, rfl⟩ : ∃ a b c d, bytes = [a, b, c, d] := by
    rcases bytes with _ | ⟨a, _ | ⟨b, _ | ⟨c, _ | ⟨d, _ | ⟨e, rest⟩⟩⟩⟩⟩ <;> simp at hlength
    exact ⟨a, b, c, d, rfl⟩
  have ha := a.toNat_lt
  have hb := b.toNat_lt
  have hc := c.toNat_lt
  have hd := d.toNat_lt
  let n := a.toNat + 256 * b.toNat + 65536 * c.toNat + 16777216 * d.toNat
  have hn : n.toUInt32.toNat = n := UInt32.toNat_ofNat_of_lt' (show n < 4294967296 by omega)
  refine ⟨n.toUInt32, ?_⟩
  rw [dwordBytes, hn, show n % 256 = a.toNat by omega, show n / 256 % 256 = b.toNat by omega,
    show n / 65536 % 256 = c.toNat by omega, show n / 16777216 = d.toNat by omega]
  simp

theorem exists_dword {image : Image} {position : Nat} (hsize : position + 4 ≤ image.size) :
    ∃ n, Holds image position (dwordBytes n) := by
  obtain ⟨bytes, hlength, hbytes⟩ := exists_holds hsize
  obtain ⟨n, rfl⟩ := exists_dwordBytes hlength
  exact ⟨n, hbytes⟩

theorem exists_extent {image : Image} {position : Nat} (hsize : position + 8 ≤ image.size) :
    ∃ extent : Extent, Holds image position extent.bytes := by
  obtain ⟨size, hcount⟩ := exists_dword (show position + 4 ≤ image.size by omega)
  obtain ⟨offset, hoffset⟩ := exists_dword (show position + 4 + 4 ≤ image.size by omega)
  exact ⟨⟨size, offset⟩, holds_append.mpr ⟨hcount, hoffset⟩⟩

theorem exists_header {image : Image} (hsize : Header.byteCount ≤ image.size) :
    ∃ header : Header, header.magic.length = 4 ∧ header.version.length = 4 ∧
      header.signature.length = 20 ∧ Holds image 0 header.bytes := by
  rw [Header.byteCount] at hsize
  obtain ⟨magic, hmagic, hmagicAt⟩ := exists_holds (show 0 + 4 ≤ image.size by omega)
  obtain ⟨version, hversion, hversionAt⟩ := exists_holds (show 4 + 4 ≤ image.size by omega)
  obtain ⟨checksum, hchecksum⟩ := exists_dword (show 8 + 4 ≤ image.size by omega)
  obtain ⟨signature, hsignature, hsignatureAt⟩ :=
    exists_holds (show 12 + 20 ≤ image.size by omega)
  obtain ⟨fileSize, hfileSize⟩ := exists_dword (show 32 + 4 ≤ image.size by omega)
  obtain ⟨headerSize, hheaderSize⟩ := exists_dword (show 36 + 4 ≤ image.size by omega)
  obtain ⟨endianTag, hendianTag⟩ := exists_dword (show 40 + 4 ≤ image.size by omega)
  obtain ⟨link, hlink⟩ := exists_extent (show 44 + 8 ≤ image.size by omega)
  obtain ⟨mapOffset, hmapOffset⟩ := exists_dword (show 52 + 4 ≤ image.size by omega)
  obtain ⟨strings, hstrings⟩ := exists_extent (show 56 + 8 ≤ image.size by omega)
  obtain ⟨types, htypes⟩ := exists_extent (show 64 + 8 ≤ image.size by omega)
  obtain ⟨protos, hprotos⟩ := exists_extent (show 72 + 8 ≤ image.size by omega)
  obtain ⟨fields, hfields⟩ := exists_extent (show 80 + 8 ≤ image.size by omega)
  obtain ⟨methods, hmethods⟩ := exists_extent (show 88 + 8 ≤ image.size by omega)
  obtain ⟨classes, hclasses⟩ := exists_extent (show 96 + 8 ≤ image.size by omega)
  obtain ⟨data, hdata⟩ := exists_extent (show 104 + 8 ≤ image.size by omega)
  refine ⟨.mk magic version checksum signature fileSize headerSize endianTag link mapOffset strings
    types protos fields methods classes data, hmagic, hversion, hsignature, ?_⟩
  simp only [Header.bytes, List.flatten_cons, List.flatten_nil, holds_append, hmagic, hversion,
    hsignature, length_dwordBytes, Extent.length_bytes, Nat.zero_add, Nat.reduceAdd]
  exact ⟨hmagicAt, hversionAt, hchecksum, hsignatureAt, hfileSize, hheaderSize, hendianTag, hlink,
    hmapOffset, hstrings, htypes, hprotos, hfields, hmethods, hclasses, hdata, trivial⟩

theorem holds_checked_parts {image : Image} {header : Header} (hmagic : header.magic.length = 4)
    (hversion : header.version.length = 4) (hsignature : header.signature.length = 20)
    (hbytes : Holds image 0 header.bytes) :
    Holds image 0 header.magic ∧ Holds image 36 (dwordBytes header.headerSize) := by
  simp only [Header.bytes, List.flatten_cons, holds_append, hmagic, hversion, hsignature,
    length_dwordBytes, Nat.zero_add, Nat.reduceAdd] at hbytes
  exact ⟨hbytes.1, hbytes.2.2.2.2.2.1⟩

/-! ## Reasons for a rejection -/

/-- The image is refused because of its header, for this reason. -/
inductive Header.Rejected (image : Image) : Fault → Prop
  | tooSmall (hsize : image.size < 112) : Rejected image .tooSmall
  | badMagic {magic : List UInt8} (hsize : 112 ≤ image.size) (hlength : magic.length = 4)
      (hmagic : Holds image 0 magic) (hother : magic ≠ mark) : Rejected image (.badMagic magic)
  | badHeaderSize {size : UInt32} (hsize : 112 ≤ image.size) (hmagic : Holds image 0 mark)
      (hheaderSize : Holds image 36 (dwordBytes size)) (hother : size.toNat ≠ 112) :
      Rejected image (.badHeaderSize size.toNat)

theorem Reader.Reads.bind_apply {α β : Type} {first : Reader α} {bytes : List UInt8} {value : α}
    (hfirst : first.Reads bytes value) (next : α → Reader β) {image : Image} {position : Nat}
    (hbytes : Holds image position bytes) :
    (first >>= next) image position = next value image (position + bytes.length) := by
  change (first image position >>= fun step => next step.1 image step.2) = _
  rw [hfirst image position hbytes]
  rfl

theorem readHeader_of_magic_ne {image : Image} {header : Header} (hbytes : Holds image 0 header.bytes)
    (hmagic : header.magic.length = 4) (hother : header.magic ≠ Header.mark) :
    Header.read image 0 = .error (.badMagic header.magic) := by
  simp only [Header.bytes, List.flatten_cons, holds_append] at hbytes
  rw [Header.read, (reads_bytes hmagic).bind_apply _ hbytes.1, if_neg hother]
  rfl

theorem readHeader_of_headerSize_ne {image : Image} {header : Header}
    (hbytes : Holds image 0 header.bytes) (hmagic : header.magic = Header.mark)
    (hversion : header.version.length = 4) (hsignature : header.signature.length = 20)
    (hother : header.headerSize.toNat ≠ Header.byteCount) :
    Header.read image 0 = .error (.badHeaderSize header.headerSize.toNat) := by
  have hmark : header.magic.length = 4 := by rw [hmagic]; rfl
  simp only [Header.bytes, List.flatten_cons, holds_append] at hbytes
  obtain ⟨hmagicAt, hversionAt, hchecksum, hsignatureAt, hfileSize, hheaderSize, -⟩ := hbytes
  rw [Header.read, (reads_bytes hmark).bind_apply _ hmagicAt, if_pos hmagic]
  change (byte.times 4 >>= _) image _ = _
  rw [(reads_bytes hversion).bind_apply _ hversionAt, (reads_dword _).bind_apply _ hchecksum,
    (reads_bytes hsignature).bind_apply _ hsignatureAt, (reads_dword _).bind_apply _ hfileSize,
    (reads_dword _).bind_apply _ hheaderSize, if_neg hother]
  rfl

theorem ofImage_of_readHeader {image : Image} {fault : Fault}
    (hsize : Header.byteCount ≤ image.size) (hread : Header.read image 0 = .error fault) :
    File.ofImage image = .error fault := by
  rw [File.ofImage, if_neg (by omega), readAt, hread]
  rfl

theorem Header.Rejected.ofImage_eq {image : Image} {fault : Fault} (hrejected : Rejected image fault) :
    File.ofImage image = .error fault := by
  cases hrejected with
  | tooSmall hsize =>
      rw [File.ofImage, if_pos (show image.size < byteCount from hsize)]
      rfl
  | @badMagic magic hsize hlength hmagic hother =>
      obtain ⟨header, hmark, hversion, hsignature, hbytes⟩ := exists_header hsize
      obtain ⟨hmagicAt, -⟩ := holds_checked_parts hmark hversion hsignature hbytes
      obtain rfl := holds_unique hmagic hmagicAt (hlength.trans hmark.symm)
      exact ofImage_of_readHeader hsize (readHeader_of_magic_ne hbytes hmark hother)
  | @badHeaderSize size hsize hmagic hheaderSize hother =>
      obtain ⟨header, hmark, hversion, hsignature, hbytes⟩ := exists_header hsize
      obtain ⟨hmagicAt, hheaderSizeAt⟩ := holds_checked_parts hmark hversion hsignature hbytes
      have hmagicEq := holds_unique hmagicAt hmagic hmark
      -- Both numbers are what is read at the same place.
      have hsizeEq := ((reads_dword _).readAt hheaderSizeAt).symm.trans
        ((reads_dword _).readAt hheaderSize)
      cases hsizeEq
      exact ofImage_of_readHeader hsize
        (readHeader_of_headerSize_ne hbytes hmagicEq hversion hsignature hother)

theorem rejected_of_ofImage {image : Image} {fault : Fault}
    (hfile : File.ofImage image = .error fault) : Header.Rejected image fault := by
  by_cases hsmall : image.size < Header.byteCount
  · rw [(Header.Rejected.tooSmall hsmall).ofImage_eq] at hfile
    cases hfile
    exact .tooSmall hsmall
  have hsize : Header.byteCount ≤ image.size := by omega
  obtain ⟨header, hmark, hversion, hsignature, hbytes⟩ := exists_header hsize
  obtain ⟨hmagicAt, hheaderSizeAt⟩ := holds_checked_parts hmark hversion hsignature hbytes
  by_cases hmagic : header.magic = Header.mark
  · by_cases hheaderSize : header.headerSize.toNat = Header.byteCount
    · rw [ofImage_eq hmagic hversion hsignature hheaderSize hbytes] at hfile
      cases hfile
    · rw [hmagic] at hmagicAt
      have hrejected := Header.Rejected.badHeaderSize hsize hmagicAt hheaderSizeAt hheaderSize
      rw [hrejected.ofImage_eq] at hfile
      cases hfile
      exact hrejected
  · have hrejected := Header.Rejected.badMagic hsize hmark hmagicAt hmagic
    rw [hrejected.ofImage_eq] at hfile
    cases hfile
    exact hrejected

theorem ofImage_eq_error_iff {image : Image} {fault : Fault} :
    File.ofImage image = .error fault ↔ Header.Rejected image fault :=
  ⟨rejected_of_ofImage, Header.Rejected.ofImage_eq⟩

end AppSurvey.Dex
