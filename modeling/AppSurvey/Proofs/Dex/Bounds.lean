import AppSurvey.Proofs.Dex.Resolution

/-!
# Answers are no larger than the image

The counts in a DEX file are chosen by whoever wrote it and may be as large as 2^32. A reader does not
compare them with anything: it goes on until it has read as many items as announced or runs into the end of
the image. So an answer that it does give is covered by bytes that are there. `Reader.Covers` says so of one
reader, with a size for each value, and it passes from single bytes through the loops to class data, code
items, parameter lists and texts.
-/

namespace AppSurvey.Dex

namespace Reader

/-- A value of the given size is read from as many bytes or more, all of them inside the image. -/
def Covers {α : Type} (reader : Reader α) (size : α → Nat) : Prop :=
  ∀ image position value next, reader image position = .ok (value, next) →
    position + size value ≤ next ∧ (position < next → next ≤ image.size)

section Composition

variable {α β : Type}

theorem Covers.pure {value : α} {size : α → Nat} (hsize : size value = 0) :
    (Pure.pure value : Reader α).Covers size := by
  intro image position result next hread
  cases hread
  simp [hsize]

theorem Covers.throw (fault : Fault) (size : α → Nat) :
    (MonadExcept.throw fault : Reader α).Covers size := by
  intro image position result next hread
  cases hread

/-- What the first reader has covered need not be covered by the second. -/
theorem Covers.bind {first : Reader α} {next : α → Reader β} {firstSize : α → Nat} {size : β → Nat}
    (hfirst : first.Covers firstSize)
    (hnext : ∀ value, (next value).Covers fun result => size result - firstSize value) :
    (first >>= next).Covers size := by
  intro image position result last hread
  change (first image position >>= fun step => next step.1 image step.2) = _ at hread
  obtain ⟨⟨value, middle⟩, hvalue, hresult⟩ := bind_eq_ok_iff.mp hread
  obtain ⟨hcovered, hinside⟩ := hfirst _ _ _ _ hvalue
  obtain ⟨hrest, hinside'⟩ := hnext value _ _ _ _ hresult
  dsimp only at hrest
  refine ⟨by omega, fun hmoved => ?_⟩
  -- If the second reader has not moved, the first one has.
  by_cases hlast : middle < last
  · exact hinside' hlast
  · have : last = middle := by omega
    subst this
    exact hinside hmoved

theorem Covers.ite {condition : Prop} [Decidable condition] {first second : Reader α} {size : α → Nat}
    (hfirst : first.Covers size) (hsecond : second.Covers size) :
    (if condition then first else second : Reader α).Covers size := by
  split
  · exact hfirst
  · exact hsecond

theorem Covers.weaken {reader : Reader α} {size smaller : α → Nat} (hreader : reader.Covers size)
    (hsmaller : ∀ value, smaller value ≤ size value) : reader.Covers smaller := by
  intro image position value next hread
  obtain ⟨hcovered, hinside⟩ := hreader image position value next hread
  have := hsmaller value
  exact ⟨by omega, hinside⟩

theorem Covers.times {reader : Reader α} {width : Nat} (hreader : reader.Covers fun _ => width)
    (n : Nat) : (reader.times n).Covers fun values => width * values.length := by
  induction n with
  | zero => exact .pure rfl
  | succ n ih =>
      refine hreader.bind fun first => ih.bind fun rest => .pure ?_
      simp only [List.length_cons, Nat.mul_add, Nat.mul_one]
      omega

/-- The bytes of a value that is not empty end inside the image. -/
theorem Covers.le_size {reader : Reader α} {size : α → Nat} (hreader : reader.Covers size)
    {image : Image} {position : Nat} {value : α} (hread : reader.readAt image position = .ok value)
    (hsome : 0 < size value) : position + size value ≤ image.size := by
  unfold readAt at hread
  cases hstep : reader image position with
  | error fault => simp [hstep, Except.map] at hread
  | ok step =>
      obtain ⟨result, next⟩ := step
      simp only [hstep, Except.map, Except.ok.injEq] at hread
      subst hread
      obtain ⟨hcovered, hinside⟩ := hreader _ _ _ _ hstep
      exact Nat.le_trans hcovered (hinside (by omega))

end Composition

theorem covers_byte : byte.Covers fun _ => 1 := by
  intro image position value next hread
  unfold byte at hread
  split at hread
  next b hb =>
    obtain ⟨hposition, -⟩ := Array.getElem?_eq_some_iff.mp hb
    cases hread
    exact ⟨Nat.le_refl _, fun _ => hposition⟩
  next => cases hread

theorem covers_word : word.Covers fun _ => 2 :=
  covers_byte.bind fun _ => covers_byte.bind fun _ => .pure rfl

theorem covers_dword : dword.Covers fun _ => 4 :=
  covers_word.bind fun _ => covers_word.bind fun _ => .pure rfl

theorem covers_groups (left : Nat) (value shift : UInt32) :
    (groups left value shift).Covers fun _ => 1 := by
  induction left generalizing value shift with
  | zero => exact .throw _ _
  | succ left ih =>
      refine covers_byte.bind fun b => .ite (.pure rfl) ?_
      exact (ih _ _).weaken fun _ => Nat.zero_le 1

theorem covers_varint : varint.Covers fun _ => 1 :=
  covers_groups 5 0 0

theorem covers_untilZero (left : Nat) :
    (untilZero left).Covers fun bytes => bytes.length + 1 := by
  induction left with
  | zero => exact .throw _ _
  | succ left ih =>
      refine covers_byte.bind fun b => .ite (.pure rfl) (ih.bind fun rest => .pure ?_)
      simp

theorem covers_zeroTerminated : zeroTerminated.Covers fun bytes => bytes.length + 1 := by
  intro image position
  exact covers_untilZero _ image position

end Reader

open Reader

namespace ClassData

theorem covers_readFields (last : UInt32) (n : Nat) :
    (readFields last n).Covers fun entries => 2 * entries.length := by
  induction n generalizing last with
  | zero => exact .pure rfl
  | succ n ih =>
      refine covers_varint.bind fun difference => covers_varint.bind fun access =>
        (ih (last + difference)).bind fun rest => .pure ?_
      simp only [List.length_cons]
      omega

theorem covers_readMethods (last : UInt32) (n : Nat) :
    (readMethods last n).Covers fun entries => 3 * entries.length := by
  induction n generalizing last with
  | zero => exact .pure rfl
  | succ n ih =>
      refine covers_varint.bind fun difference => covers_varint.bind fun access =>
        covers_varint.bind fun code => (ih (last + difference)).bind fun rest => .pure ?_
      simp only [List.length_cons]
      omega

theorem covers_read :
    read.Covers fun data => 4 + 2 * data.fields.length + 3 * data.methods.length := by
  refine covers_varint.bind fun _ => covers_varint.bind fun _ => covers_varint.bind fun _ =>
    covers_varint.bind fun _ => ?_
  refine (covers_readFields _ _).bind fun statics => (covers_readFields _ _).bind fun instances =>
    (covers_readMethods _ _).bind fun directs => (covers_readMethods _ _).bind fun virtuals =>
      .pure ?_
  simp only [fields, methods, List.length_append]
  omega

end ClassData

namespace File

variable {file : File}

theorem le_size_of_classData {offset : Nat} (hoffset : offset ≠ 0) {data : ClassData}
    (hdata : file.classData offset = .ok data) :
    offset + 4 + 2 * data.fields.length + 3 * data.methods.length ≤ file.image.size := by
  rw [classData, if_neg hoffset] at hdata
  have := ClassData.covers_read.le_size hdata (by omega)
  omega

theorem covers_countedWords :
    (do let size ← dword; word.times size.toNat : Reader (List UInt16)).Covers fun words =>
      4 + 2 * words.length :=
  covers_dword.bind fun size => (covers_word.times size.toNat).weaken fun words => by simp

theorem le_size_of_code {offset : Nat} (hoffset : offset ≠ 0) {words : List UInt16}
    (hcode : file.code offset = .ok words) :
    offset + 16 + 2 * words.length ≤ file.image.size := by
  rw [code, if_neg hoffset] at hcode
  have hsize := @Covers.le_size _ _ (fun words => 16 + 2 * words.length) ?_ _ _ _ hcode (by omega)
  · omega
  · refine covers_word.bind fun _ => covers_word.bind fun _ => covers_word.bind fun _ =>
      covers_word.bind fun _ => covers_dword.bind fun _ => ?_
    exact covers_countedWords.weaken fun words => by omega

theorem le_size_of_readParameters {image : Image} {offset : Nat} {parameters : List UInt16}
    (hread : Proto.readParameters image offset = .ok parameters) (hsome : parameters ≠ []) :
    offset + 4 + 2 * parameters.length ≤ image.size := by
  unfold Proto.readParameters at hread
  split at hread
  next =>
    cases hread
    exact absurd rfl hsome
  next =>
    have := covers_countedWords.le_size hread (by omega)
    omega

theorem le_size_of_proto {index : Nat} {proto : Proto} (hproto : file.proto index = .ok proto)
    (hsome : proto.parameters ≠ []) : 4 + 2 * proto.parameters.length ≤ file.image.size := by
  simp only [File.proto, bind_eq_ok_iff, pure_eq_ok_iff] at hproto
  obtain ⟨⟨returnType, offset⟩, -, parameters, hread, rfl⟩ := hproto
  have hsize := le_size_of_readParameters hread hsome
  dsimp only at hsize ⊢
  omega

/-- Besides its bytes a text takes a length and a zero byte. -/
theorem le_size_of_textAt {offset : Nat} {text : String} (htext : file.textAt offset = .ok text) :
    offset + text.utf8ByteSize + 2 ≤ file.image.size := by
  simp only [textAt, bind_eq_ok_iff] at htext
  obtain ⟨bytes, hbytes, hdecode⟩ := htext
  split at hdecode
  next decoded hdecoded =>
    cases hdecode
    have hcovers : (do let _length ← varint; zeroTerminated : Reader (List UInt8)).Covers
        fun bytes => bytes.length + 2 :=
      covers_varint.bind fun _ => covers_zeroTerminated
    have := hcovers.le_size hbytes (by omega)
    rw [← Utf8.length_encode, Utf8.encode_of_decode hdecoded]
    omega
  next => cases hdecode

theorem lt_size_of_string {index : Nat} {text : String} (htext : file.string index = .ok text) :
    text.utf8ByteSize < file.image.size := by
  simp only [string, bind_eq_ok_iff] at htext
  obtain ⟨offset, -, htext⟩ := htext
  have := le_size_of_textAt htext
  omega

theorem le_size_of_item {α : Type} {table : Table} {reader : Reader α}
    (hreader : reader.Covers fun _ => table.itemSize) {index : Nat} {value : α}
    (hitem : file.item table index reader = .ok value) :
    (file.header.extent table).offset.toNat + (index + 1) * table.itemSize ≤ file.image.size := by
  unfold item at hitem
  dsimp only at hitem
  split at hitem
  next => cases hitem
  next =>
    have hsize := hreader.le_size hitem (by cases table <;> decide)
    rw [Nat.succ_mul]
    omega

theorem le_size_of_classDef {index : Nat} {definition : ClassDef}
    (hdefinition : file.classDef index = .ok definition) :
    file.header.classes.offset.toNat + (index + 1) * 32 ≤ file.image.size := by
  apply le_size_of_item _ hdefinition
  exact covers_dword.bind fun _ => covers_dword.bind fun _ => covers_dword.bind fun _ =>
    covers_dword.bind fun _ => covers_dword.bind fun _ => covers_dword.bind fun _ =>
      covers_dword.bind fun _ => covers_dword.bind fun _ => .pure rfl

end File

/-- Of the numbers below any bound, only so many have a value as lie below a smaller one. -/
theorem length_filterMap_range_le {α : Type} {f : Nat → Option α} {bound : Nat}
    (hbound : ∀ index value, f index = some value → index < bound) (n : Nat) :
    ((List.range n).filterMap f).length ≤ bound := by
  induction n with
  | zero => simp
  | succ n ih =>
      rw [List.range_succ, List.filterMap_append, List.length_append]
      cases hvalue : f n with
      | none => simpa [hvalue] using ih
      | some value =>
          have hn := hbound n value hvalue
          have hlength := List.length_filterMap_le f (List.range n)
          rw [List.length_range] at hlength
          simp only [List.filterMap_cons, hvalue, List.filterMap_nil, List.length_singleton]
          omega

theorem File.length_classes_le (file : File) : file.classes.length ≤ file.image.size / 32 := by
  refine length_filterMap_range_le (fun index listed hlisted => ?_) file.classCount
  cases hclass : file.listClass index with
  | error fault => simp [hclass, Except.toOption] at hlisted
  | ok found =>
      rw [listClass] at hclass
      obtain ⟨definition, hdefinition, -⟩ := bind_eq_ok_iff.mp hclass
      have := le_size_of_classDef hdefinition
      omega

theorem File.image_of_ofImage {image : Image} {file : File} (hfile : ofImage image = .ok file) :
    file.image = image := by
  unfold ofImage at hfile
  split at hfile
  next => cases hfile
  next =>
    obtain ⟨header, -, hheader⟩ := bind_eq_ok_iff.mp hfile
    cases hheader
    rfl

theorem Bundle.exists_file_of_fileClasses {bundle : Bundle} {index : Nat} {entry : Entry}
    (hentry : bundle.entries[index]? = some entry) {classes : List Class}
    (hclasses : bundle.fileClasses index = .ok classes) :
    ∃ file, File.ofImage entry.image = .ok file ∧ file.classes = classes := by
  simp only [fileClasses, hentry] at hclasses
  cases hfile : File.ofImage entry.image with
  | error fault => simp [hfile, Except.map] at hclasses
  | ok file => exact ⟨file, rfl, by simpa [hfile, Except.map] using hclasses⟩

/-- Whatever counts stand in a file, what is read from it is no larger than its bytes. -/
theorem answers_bounded_by_image (image : Image) :
    (∀ file, File.ofImage image = .ok file →
      (∀ offset data, offset ≠ 0 → file.classData offset = .ok data →
        offset + 4 + 2 * data.fields.length + 3 * data.methods.length ≤ image.size) ∧
      (∀ offset words, offset ≠ 0 → file.code offset = .ok words →
        offset + 16 + 2 * words.length ≤ image.size) ∧
      (∀ index proto, file.proto index = .ok proto → 0 < proto.parameters.length →
        4 + 2 * proto.parameters.length ≤ image.size) ∧
      ∀ index text, file.string index = .ok text → text.utf8ByteSize < image.size) ∧
    ∀ (bundle : Bundle) (index : Nat) (name : String) (classes : List Class),
      bundle.entries[index]? = some ⟨name, image⟩ → bundle.fileClasses index = .ok classes →
        classes.length ≤ image.size / 32 := by
  refine ⟨fun file hfile => ?_, fun bundle index name classes hentry hclasses => ?_⟩
  · rw [← File.image_of_ofImage hfile]
    refine ⟨fun offset data hoffset hdata => File.le_size_of_classData hoffset hdata,
      fun offset words hoffset hcode => File.le_size_of_code hoffset hcode,
      fun index proto hproto hsome => ?_, fun index text htext => File.lt_size_of_string htext⟩
    exact File.le_size_of_proto hproto (List.ne_nil_of_length_pos hsome)
  · obtain ⟨file, hfile, rfl⟩ := Bundle.exists_file_of_fileClasses hentry hclasses
    have hlength := file.length_classes_le
    rwa [File.image_of_ofImage hfile] at hlength

/-- A header that announces as many classes as a number can count. -/
def crowdedHeader : Header :=
  { backwardPlan.header with classes := ⟨0xFFFFFFFF, 154⟩ }

/-- The bytes of `backwardImage` behind that header. -/
def crowdedImage : Image :=
  (crowdedHeader.bytes ++ backwardImage.toList.drop 112).toArray

theorem crowdedImage_bounds :
    ∃ file data words proto text classes, File.ofImage crowdedImage = .ok file ∧
      file.classCount = 0xFFFFFFFF ∧ crowdedImage.size = 243 ∧
      (file.classData 114 = .ok data ∧ data.fields.length = 3 ∧ data.methods.length = 1 ∧
        114 + 4 + 2 * data.fields.length + 3 * data.methods.length ≤ 243) ∧
      (file.code 114 = .ok words ∧ 114 + 16 + 2 * words.length ≤ 243) ∧
      (file.proto 0 = .ok proto ∧ 0 < proto.parameters.length ∧
        4 + 2 * proto.parameters.length ≤ 243) ∧
      (file.string 1 = .ok text ∧ text.utf8ByteSize < 243) ∧
      (Bundle.mk [⟨"classes.dex", crowdedImage⟩]).fileClasses 0 = .ok classes ∧
        classes.length ≤ 7 := by
  let file : File := { image := crowdedImage, header := crowdedHeader }
  have hfile : File.ofImage crowdedImage = .ok file :=
    ofImage_eq rfl rfl rfl rfl (by decide +kernel)
  have hsize : crowdedImage.size = 243 := by decide +kernel
  have hdata : file.classData 114 =
      .ok { staticFields := [⟨0, 0⟩, ⟨0, 0⟩, ⟨0, 0⟩], directMethods := [⟨0, 0, 2⟩] } := by
    decide +kernel
  have hcode : file.code 114 = .ok [0x0E, 0x1012] := by decide +kernel
  have hproto : file.proto 0 = .ok ⟨1, [0, 1]⟩ := by decide +kernel
  have htext : file.string 1 = .ok "[Lé/A;" := by decide +kernel
  have hclasses : (Bundle.mk [⟨"classes.dex", crowdedImage⟩]).fileClasses 0 = .ok file.classes := by
    simp only [Bundle.fileClasses, List.getElem?_cons_zero, hfile]
    rfl
  obtain ⟨hanswers, hlisting⟩ := answers_bounded_by_image crowdedImage
  obtain ⟨hdataBound, hcodeBound, hprotoBound, htextBound⟩ := hanswers file hfile
  have hlength := hlisting _ 0 "classes.dex" _ rfl hclasses
  rw [hsize] at hdataBound hcodeBound hprotoBound htextBound hlength
  exact ⟨file, _, _, _, _, _, hfile, rfl, hsize,
    ⟨hdata, rfl, rfl, hdataBound 114 _ (by decide) hdata⟩,
    ⟨hcode, hcodeBound 114 _ (by decide) hcode⟩,
    ⟨hproto, by decide, hprotoBound 0 _ hproto (by decide)⟩,
    ⟨htext, htextBound 1 _ htext⟩, hclasses, hlength⟩

end AppSurvey.Dex
