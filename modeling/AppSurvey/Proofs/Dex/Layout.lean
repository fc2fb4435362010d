import AppSurvey.Dex.File
import AppSurvey.Proofs.Dex.Descriptor
import AppSurvey.Proofs.Dex.Image
import AppSurvey.Proofs.Text.ModifiedUtf8

/-!
# DEX files are read back

A `Plan` says what a DEX file is to hold and where. `Plan.LaidOut` says that the bytes of an image are
laid out that way: the header at the beginning, the tables where it announces them, and the texts,
parameter lists and code items where the tables point. Nothing is said about the order of these parts
or about the bytes between them. A file laid out by a plan answers every question as the plan does.
-/

namespace AppSurvey.Dex

open Reader

/-! ## Items as bytes -/

/-- A size and an offset. -/
def Extent.bytes (extent : Extent) : List UInt8 :=
  dwordBytes extent.size ++ dwordBytes extent.offset

theorem Extent.length_bytes (extent : Extent) : extent.bytes.length = 8 := rfl

/-- The parts of a header in order. -/
def Header.bytes (header : Header) : List UInt8 :=
  List.flatten [
    header.magic, header.version, dwordBytes header.checksum, header.signature,
    dwordBytes header.fileSize, dwordBytes header.headerSize, dwordBytes header.endianTag,
    header.link.bytes, dwordBytes header.mapOffset, header.strings.bytes, header.types.bytes,
    header.protos.bytes, header.fields.bytes, header.methods.bytes, header.classes.bytes,
    header.data.bytes]

/-- The class, the type and the name of a field. -/
def FieldRef.bytes (field : FieldRef) : List UInt8 :=
  List.flatten [wordBytes field.owner, wordBytes field.type, dwordBytes field.name]

/-- The class, the prototype and the name of a method. -/
def MethodRef.bytes (method : MethodRef) : List UInt8 :=
  List.flatten [wordBytes method.owner, wordBytes method.proto, dwordBytes method.name]

/-- The eight numbers of a class definition. -/
def ClassDef.bytes (definition : ClassDef) : List UInt8 :=
  List.flatten [
    dwordBytes definition.type, dwordBytes definition.access, dwordBytes definition.superclass,
    dwordBytes definition.interfaces, dwordBytes definition.sourceFile,
    dwordBytes definition.annotations, dwordBytes definition.classData,
    dwordBytes definition.staticValues]

/-- A prototype together with the number of its short form, which no reader gives back. -/
structure ProtoItem where
  shorty : UInt32
  proto : Proto

/-- A prototype whose parameters are listed at an offset. -/
def ProtoItem.bytes (item : ProtoItem) (parameters : UInt32) : List UInt8 :=
  List.flatten [dwordBytes item.shorty, dwordBytes item.proto.returnType, dwordBytes parameters]

/-- Words with their number in front of them. -/
def countedWords (size : UInt32) (words : List UInt16) : List UInt8 :=
  dwordBytes size ++ words.flatMap wordBytes

/-- The words of a method together with the numbers in front of them, which no reader gives back. -/
structure CodeItem where
  registers : UInt16
  ins : UInt16
  outs : UInt16
  tries : UInt16
  debug : UInt32
  words : List UInt16

/-- A code item of so many words. -/
def CodeItem.bytes (item : CodeItem) (size : UInt32) : List UInt8 :=
  List.flatten [
    wordBytes item.registers, wordBytes item.ins, wordBytes item.outs, wordBytes item.tries,
    dwordBytes item.debug, countedWords size item.words]

/-- The header of a file without tables. -/
def Header.bare : Header where
  magic := Header.mark
  version := [0x30, 0x33, 0x35, 0]
  checksum := 0
  signature := List.replicate 20 0
  fileSize := 0x70
  headerSize := 0x70
  endianTag := 0x12345678
  link := ⟨0, 0⟩
  mapOffset := 0
  strings := ⟨0, 0⟩
  types := ⟨0, 0⟩
  protos := ⟨0, 0⟩
  fields := ⟨0, 0⟩
  methods := ⟨0, 0⟩
  classes := ⟨0, 0⟩
  data := ⟨0, 0⟩

/-! ## Reading items -/

theorem reads_readExtent (extent : Extent) : Header.readExtent.Reads extent.bytes extent :=
  (reads_dword extent.size).bind ((reads_dword extent.offset).map _)

theorem Reader.Reads.of_check {α : Type} {reader refusal : Reader α} {bytes : List UInt8} {value : α}
    {condition : Prop} [Decidable condition] (hcondition : condition)
    (hreader : reader.Reads bytes value) :
    (if condition then reader else refusal : Reader α).Reads bytes value := by
  rwa [if_pos hcondition]

/-- A header that passes its two checks is read back. -/
theorem reads_header {header : Header} (hmagic : header.magic = Header.mark)
    (hversion : header.version.length = 4) (hsignature : header.signature.length = 20)
    (hsize : header.headerSize.toNat = Header.byteCount) :
    Header.read.Reads header.bytes header := by
  have hmark : header.magic.length = 4 := by rw [hmagic]; rfl
  refine (reads_bytes hmark).bind (.of_check hmagic ?_)
  refine (reads_bytes hversion).bind ((reads_dword _).bind ((reads_bytes hsignature).bind
    ((reads_dword _).bind ((reads_dword _).bind (.of_check hsize ?_)))))
  refine (reads_dword _).bind ((reads_readExtent _).bind ((reads_dword _).bind
    ((reads_readExtent _).bind ((reads_readExtent _).bind ((reads_readExtent _).bind
      ((reads_readExtent _).bind ((reads_readExtent _).bind ((reads_readExtent _).bind
        ((reads_readExtent _).bind ?_)))))))))
  exact Reads.pure header

theorem length_header {header : Header} (hmagic : header.magic = Header.mark)
    (hversion : header.version.length = 4) (hsignature : header.signature.length = 20) :
    header.bytes.length = Header.byteCount := by
  have hmark : header.magic.length = 4 := by rw [hmagic]; rfl
  simp only [Header.bytes, List.flatten_cons, List.flatten_nil, List.length_append,
    List.length_nil, length_dwordBytes, Extent.length_bytes, hmark, hversion, hsignature]
  rfl

theorem ofImage_eq {header : Header} {image : Image} (hmagic : header.magic = Header.mark)
    (hversion : header.version.length = 4) (hsignature : header.signature.length = 20)
    (hsize : header.headerSize.toNat = Header.byteCount) (hbytes : Holds image 0 header.bytes) :
    File.ofImage image = .ok { image, header } := by
  have hlength := length_header hmagic hversion hsignature
  have hlarge : ¬ image.size < Header.byteCount := by
    have hsome : header.bytes ≠ [] := by
      intro hnil
      rw [hnil] at hlength
      exact absurd hlength (by decide)
    have hle := hbytes.length_le hsome
    omega
  rw [File.ofImage, if_neg hlarge, (reads_header hmagic hversion hsignature hsize).readAt hbytes]
  rfl

/-! ## Tables -/

/-- The answer for an item of a table: the item of that number, or that there is none. -/
def Table.answer {α : Type} (table : Table) (items : List α) (index : Nat) : Except Fault α :=
  match items[index]? with
  | some item => .ok item
  | none => .error (.outOfBounds table index)

/-- The items stand one behind the other at the announced offset, as many as announced. -/
structure IsTable {α : Type} (image : Image) (extent : Extent) (items : List α)
    (encode : α → List UInt8) : Prop where
  size : extent.size.toNat = items.length
  held : Holds image extent.offset.toNat (items.flatMap encode)

section Tables

variable {α β : Type}

theorem holds_item {image : Image} {position width index : Nat} {items : List α}
    {encode : α → List UInt8} {item : α} (hwidth : ∀ item, (encode item).length = width)
    (hheld : Holds image position (items.flatMap encode)) (hitem : items[index]? = some item) :
    Holds image (position + index * width) (encode item) := by
  induction items generalizing position index with
  | nil => simp at hitem
  | cons first rest ih =>
      rw [List.flatMap_cons, holds_append, hwidth] at hheld
      -- The items in front take up one width each.
      cases index with
      | zero =>
          rw [List.getElem?_cons_zero, Option.some.injEq] at hitem
          subst hitem
          simpa using hheld.1
      | succ index =>
          rw [List.getElem?_cons_succ] at hitem
          have hrest := ih hheld.2 hitem
          rwa [Nat.add_assoc, Nat.add_comm width, ← Nat.succ_mul] at hrest

/-- A reader that reads every item of a table back answers for the table. -/
theorem item_eq_answer {file : File} {table : Table} {items : List α} {encode : α → List UInt8}
    (htable : IsTable file.image (file.header.extent table) items encode)
    (hwidth : ∀ item, (encode item).length = table.itemSize) {reader : Reader β} {view : α → β}
    (hreader : ∀ item, reader.Reads (encode item) (view item)) (index : Nat) :
    file.item table index reader = table.answer (items.map view) index := by
  rw [File.item, htable.size, Table.answer, List.getElem?_map]
  cases hitem : items[index]? with
  | none => rw [if_pos (List.getElem?_eq_none_iff.mp hitem)]; rfl
  | some item =>
      obtain ⟨hindex, -⟩ := List.getElem?_eq_some_iff.mp hitem
      rw [if_neg (Nat.not_le.mpr hindex)]
      exact (hreader item).readAt (holds_item hwidth htable.held hitem)

theorem item_eq_answer_self {file : File} {table : Table} {items : List α} {encode : α → List UInt8}
    (htable : IsTable file.image (file.header.extent table) items encode)
    (hwidth : ∀ item, (encode item).length = table.itemSize) {reader : Reader α}
    (hreader : ∀ item, reader.Reads (encode item) item) (index : Nat) :
    file.item table index reader = table.answer items index := by
  rw [item_eq_answer htable hwidth hreader index, List.map_id']

/-- What is read from the entries of a table answers for the table, if it does so entry by entry. -/
theorem answer_bind {γ : Type} {table : Table} {items : List α} {entry : α → γ}
    {read : γ → Except Fault β} {view : α → β}
    (hread : ∀ item ∈ items, read (entry item) = .ok (view item)) (index : Nat) :
    (table.answer (items.map entry) index >>= read) = table.answer (items.map view) index := by
  rw [Table.answer, Table.answer, List.getElem?_map, List.getElem?_map]
  cases hitem : items[index]? with
  | none => rfl
  | some item => exact hread item (List.mem_of_getElem? hitem)

end Tables

/-! ## Plans -/

/-- An item, and the offset of the data that belong to it. -/
structure Placed (α : Type) where
  item : α
  offset : UInt32

/-- What a DEX file is to hold, and where its variable parts are to stand. -/
structure Plan where
  header : Header
  strings : List (Placed String)
  types : List UInt32
  protos : List (Placed ProtoItem)
  fields : List FieldRef
  methods : List MethodRef
  classes : List ClassDef
  codes : List (Placed CodeItem)

/-- A text stands at an offset: the number of its units, its bytes and a zero byte. -/
def TextAt (image : Image) (offset : UInt32) (text : String) : Prop :=
  ∃ (length : UInt32) (bytes : List UInt8), length.toNat = (ModifiedUtf8.units text).length ∧
    IsVarint bytes length ∧ Holds image offset.toNat (bytes ++ (ModifiedUtf8.encode text ++ [0]))

/-- Parameters are listed at an offset; offset zero stands for none. -/
def ParametersAt (image : Image) (offset : UInt32) (parameters : List UInt16) : Prop :=
  offset = 0 ∧ parameters = [] ∨
    offset ≠ 0 ∧ ∃ size : UInt32, size.toNat = parameters.length ∧
      Holds image offset.toNat (countedWords size parameters)

/-- A code item stands at an offset other than zero. -/
def CodeAt (image : Image) (offset : UInt32) (code : CodeItem) : Prop :=
  offset ≠ 0 ∧ ∃ size : UInt32, size.toNat = code.words.length ∧
    Holds image offset.toNat (code.bytes size)

namespace Plan

/-- The texts of the plan. -/
def texts (plan : Plan) : List String :=
  plan.strings.map Placed.item

/-- The name of the type whose descriptor is the text of a number. -/
def typeName (plan : Plan) (string : UInt32) : String :=
  Descriptor.typeName (plan.texts.getD string.toNat "")

/-- The image is laid out by the plan. -/
structure LaidOut (plan : Plan) (image : Image) : Prop where
  magic : plan.header.magic = [0x64, 0x65, 0x78, 0x0A]
  version : plan.header.version.length = 4
  signature : plan.header.signature.length = 20
  headerSize : plan.header.headerSize.toNat = 0x70
  header : Holds image 0 plan.header.bytes
  stringTable : IsTable image plan.header.strings plan.strings fun text => dwordBytes text.offset
  typeTable : IsTable image plan.header.types plan.types dwordBytes
  protoTable :
    IsTable image plan.header.protos plan.protos fun proto => proto.item.bytes proto.offset
  fieldTable : IsTable image plan.header.fields plan.fields FieldRef.bytes
  methodTable : IsTable image plan.header.methods plan.methods MethodRef.bytes
  classTable : IsTable image plan.header.classes plan.classes ClassDef.bytes
  textsAt : ∀ text ∈ plan.strings, TextAt image text.offset text.item
  parametersAt :
    ∀ proto ∈ plan.protos, ParametersAt image proto.offset proto.item.proto.parameters
  codesAt : ∀ code ∈ plan.codes, CodeAt image code.offset code.item
  plainTexts : ∀ text ∈ plan.strings, ModifiedUtf8.IsPlain text.item
  typesInRange : ∀ string ∈ plan.types, string.toNat < plan.strings.length

end Plan

/-! ## Reading a planned file -/

/-- The bytes of a text are read as UTF-8. -/
theorem textAt_eq_decode {file : File} {offset : UInt32} {text : String}
    (htext : TextAt file.image offset text) :
    file.textAt offset.toNat = (Utf8.decode (ModifiedUtf8.encode text)).mapError Fault.badText := by
  obtain ⟨length, bytes, -, hlength, hbytes⟩ := htext
  have hreads : (do let _length ← varint; zeroTerminated : Reader (List UInt8)).Reads
      (bytes ++ (ModifiedUtf8.encode text ++ [0])) (ModifiedUtf8.encode text) :=
    (reads_varint hlength).bind (reads_zeroTerminated (ModifiedUtf8.zero_notMem_encode text))
  rw [File.textAt, hreads.readAt hbytes]
  simp only [bind, Except.bind]
  cases Utf8.decode (ModifiedUtf8.encode text) <;> rfl

theorem textAt_eq {file : File} {offset : UInt32} {text : String}
    (htext : TextAt file.image offset text) (hplain : ModifiedUtf8.IsPlain text) :
    file.textAt offset.toNat = .ok text := by
  rw [textAt_eq_decode htext, ModifiedUtf8.decode_encode_of_isPlain hplain]
  rfl

theorem reads_countedWords {size : UInt32} {words : List UInt16}
    (hsize : size.toNat = words.length) :
    (do let size ← dword; word.times size.toNat : Reader (List UInt16)).Reads
      (countedWords size words) words :=
  (reads_dword size).bind (Reads.times (fun n _ => reads_word n) hsize.symm)

theorem readParameters_eq {image : Image} {offset : UInt32} {parameters : List UInt16}
    (hparameters : ParametersAt image offset parameters) :
    Proto.readParameters image offset.toNat = .ok parameters := by
  unfold Proto.readParameters
  rcases hparameters with ⟨rfl, rfl⟩ | ⟨hoffset, size, hsize, hbytes⟩
  · rfl
  · rw [if_neg (toNat_ne_zero hoffset)]
    exact (reads_countedWords hsize).readAt hbytes

theorem code_eq {file : File} {offset : UInt32} {code : CodeItem}
    (hcode : CodeAt file.image offset code) : file.code offset.toNat = .ok code.words := by
  obtain ⟨hoffset, size, hsize, hbytes⟩ := hcode
  rw [File.code, if_neg (toNat_ne_zero hoffset)]
  refine Reads.readAt ?_ hbytes
  refine (reads_word _).bind ((reads_word _).bind ((reads_word _).bind ((reads_word _).bind
    ((reads_dword _).bind ?_))))
  rw [List.flatten_singleton]
  exact reads_countedWords hsize

namespace Plan.LaidOut

variable {plan : Plan} {image : Image} (hlaid : plan.LaidOut image)

include hlaid

theorem ofImage_eq_ok : File.ofImage image = .ok { image, header := plan.header } :=
  ofImage_eq hlaid.magic hlaid.version hlaid.signature hlaid.headerSize hlaid.header

theorem string_eq (index : Nat) :
    File.string { image, header := plan.header } index = Table.strings.answer plan.texts index := by
  rw [File.string, item_eq_answer hlaid.stringTable (fun _ => rfl) fun text =>
    reads_dword (Placed.offset text)]
  refine answer_bind (fun text htext => ?_) index
  exact textAt_eq (hlaid.textsAt text htext) (hlaid.plainTexts text htext)

theorem typeName_eq (index : Nat) :
    File.typeName { image, header := plan.header } index =
      Table.types.answer (plan.types.map plan.typeName) index := by
  rw [File.typeName, item_eq_answer hlaid.typeTable (fun _ => rfl) reads_dword]
  refine answer_bind (fun string hstring => ?_) index
  -- The number of the descriptor is one of the strings, so the second look-up does not fail.
  have hrange : string.toNat < plan.texts.length := by
    rw [Plan.texts, List.length_map]
    exact hlaid.typesInRange string hstring
  rw [hlaid.string_eq, Table.answer, Plan.typeName, List.getD_eq_getElem?_getD,
    List.getElem?_eq_getElem hrange]
  rfl

theorem typeName_eq_of_descriptor {index : Nat} {string : UInt32} {type : JavaType}
    (hstring : plan.types[index]? = some string)
    (htext : plan.texts[string.toNat]? = some type.descriptor) :
    File.typeName { image, header := plan.header } index = .ok type.name := by
  rw [hlaid.typeName_eq, Table.answer, List.getElem?_map, hstring, Option.map_some, Plan.typeName,
    List.getD_eq_getElem?_getD, htext, Option.getD_some, Descriptor.typeName_descriptor]

theorem proto_eq (index : Nat) :
    File.proto { image, header := plan.header } index =
      Table.protos.answer (plan.protos.map fun proto => proto.item.proto) index := by
  have hreads (proto : Placed ProtoItem) :
      (do
        let _shorty ← dword
        let returnType ← dword
        let parameters ← dword
        return (returnType, parameters) : Reader (UInt32 × UInt32)).Reads
        (proto.item.bytes proto.offset) (proto.item.proto.returnType, proto.offset) :=
    (reads_dword _).bind ((reads_dword _).bind ((reads_dword _).bind (Reads.pure _)))
  rw [File.proto, item_eq_answer hlaid.protoTable (fun _ => rfl) hreads]
  refine answer_bind (fun proto hproto => ?_) index
  dsimp only
  rw [readParameters_eq (hlaid.parametersAt proto hproto)]
  rfl

theorem field_eq (index : Nat) :
    File.field { image, header := plan.header } index = Table.fields.answer plan.fields index := by
  refine item_eq_answer_self hlaid.fieldTable (fun _ => rfl) (fun field => ?_) index
  exact (reads_word _).bind ((reads_word _).bind ((reads_dword _).bind (Reads.pure field)))

theorem method_eq (index : Nat) :
    File.method { image, header := plan.header } index =
      Table.methods.answer plan.methods index := by
  refine item_eq_answer_self hlaid.methodTable (fun _ => rfl) (fun method => ?_) index
  exact (reads_word _).bind ((reads_word _).bind ((reads_dword _).bind (Reads.pure method)))

theorem classDef_eq (index : Nat) :
    File.classDef { image, header := plan.header } index =
      Table.classes.answer plan.classes index := by
  refine item_eq_answer_self hlaid.classTable (fun _ => rfl) (fun definition => ?_) index
  exact (reads_dword _).bind ((reads_dword _).bind ((reads_dword _).bind ((reads_dword _).bind
    ((reads_dword _).bind ((reads_dword _).bind ((reads_dword _).bind ((reads_dword _).bind
      (Reads.pure definition))))))))

end Plan.LaidOut

/-- An image laid out by a plan is a DEX file that answers every question as the plan does. Numbers
past the end of a table are refused. -/
theorem file_answers_as_planned (plan : Plan) (image : Image) (hlaid : plan.LaidOut image) :
    ∃ file, File.ofImage image = .ok file ∧ file.header = plan.header ∧
      (∀ index, file.string index = Table.strings.answer plan.texts index) ∧
      (∀ index, file.typeName index = Table.types.answer (plan.types.map plan.typeName) index) ∧
      (∀ (index : Nat) (string : UInt32) (type : JavaType), plan.types[index]? = some string →
        plan.texts[string.toNat]? = some type.descriptor →
          file.typeName index = .ok type.name) ∧
      (∀ index, file.proto index =
        Table.protos.answer (plan.protos.map fun proto => proto.item.proto) index) ∧
      (∀ index, file.field index = Table.fields.answer plan.fields index) ∧
      (∀ index, file.method index = Table.methods.answer plan.methods index) ∧
      (∀ index, file.classDef index = Table.classes.answer plan.classes index) ∧
      (∀ code ∈ plan.codes, file.code code.offset.toNat = .ok code.item.words) ∧
      ∀ table index, (Fault.outOfBounds table index).kind = .unreadableItem :=
  ⟨{ image, header := plan.header }, hlaid.ofImage_eq_ok, rfl, hlaid.string_eq, hlaid.typeName_eq,
    fun _ _ _ hstring htext => hlaid.typeName_eq_of_descriptor hstring htext, hlaid.proto_eq,
    hlaid.field_eq, hlaid.method_eq, hlaid.classDef_eq,
    fun code hcode => code_eq (hlaid.codesAt code hcode), fun _ _ => rfl⟩

/-- A plan that puts the tables behind what they point to, the last table first. -/
def backwardPlan : Plan where
  header := {
    magic := Header.mark
    version := [0x30, 0x33, 0x35, 0]
    checksum := 7
    signature := List.replicate 20 0xAB
    fileSize := 243
    headerSize := 0x70
    endianTag := 0x12345678
    link := ⟨0, 0⟩
    mapOffset := 0
    strings := ⟨2, 234⟩
    types := ⟨2, 226⟩
    protos := ⟨2, 202⟩
    fields := ⟨1, 194⟩
    methods := ⟨1, 186⟩
    classes := ⟨1, 154⟩
    data := ⟨42, 112⟩ }
  strings := [⟨"I", 134⟩, ⟨"[Lé/A;", 137⟩]
  types := [1, 0]
  protos := [⟨⟨0, ⟨1, [0, 1]⟩⟩, 146⟩, ⟨⟨0, ⟨0, []⟩⟩, 0⟩]
  fields := [⟨0, 1, 1⟩]
  methods := [⟨1, 0, 0⟩]
  classes := [⟨0, 1, 0xFFFFFFFF, 0, 0, 0, 114, 0⟩]
  codes := [⟨⟨3, 1, 0, 0, 0, [0x0E, 0x1012]⟩, 114⟩]

/-- An image laid out by the plan, with bytes of no meaning around its parts. -/
def backwardImage : Image :=
  (List.flatten [
    backwardPlan.header.bytes, [0xFF, 0xFF],
    backwardPlan.codes.flatMap fun code => code.item.bytes 2,
    varintBytes 1, ModifiedUtf8.encode "I", [0],
    varintBytes 6, ModifiedUtf8.encode "[Lé/A;", [0],
    countedWords 2 [0, 1],
    backwardPlan.classes.flatMap ClassDef.bytes,
    backwardPlan.methods.flatMap MethodRef.bytes,
    backwardPlan.fields.flatMap FieldRef.bytes,
    backwardPlan.protos.flatMap fun proto => proto.item.bytes proto.offset,
    backwardPlan.types.flatMap dwordBytes,
    backwardPlan.strings.flatMap fun text => dwordBytes text.offset,
    [0xFF]]).toArray

theorem backwardPlan_laidOut : backwardPlan.LaidOut backwardImage where
  magic := rfl
  version := rfl
  signature := rfl
  headerSize := rfl
  header := by decide +kernel
  stringTable := ⟨rfl, by decide +kernel⟩
  typeTable := ⟨rfl, by decide +kernel⟩
  protoTable := ⟨rfl, by decide +kernel⟩
  fieldTable := ⟨rfl, by decide +kernel⟩
  methodTable := ⟨rfl, by decide +kernel⟩
  classTable := ⟨rfl, by decide +kernel⟩
  textsAt := by
    refine List.forall_mem_cons.mpr ⟨?_, List.forall_mem_singleton.mpr ?_⟩
    · exact ⟨1, _, by decide +kernel, isVarint_varintBytes 1, by decide +kernel⟩
    · exact ⟨6, _, by decide +kernel, isVarint_varintBytes 6, by decide +kernel⟩
  parametersAt := by
    refine List.forall_mem_cons.mpr ⟨.inr ⟨by decide, 2, rfl, ?_⟩, List.forall_mem_singleton.mpr ?_⟩
    · decide +kernel
    · exact .inl ⟨rfl, rfl⟩
  codesAt := by
    refine List.forall_mem_singleton.mpr ⟨by decide, 2, rfl, ?_⟩
    decide +kernel
  plainTexts := by
    refine List.forall_mem_cons.mpr ⟨?_, List.forall_mem_singleton.mpr ?_⟩
    · decide +kernel
    · decide +kernel
  typesInRange := List.forall_mem_cons.mpr ⟨by decide, List.forall_mem_singleton.mpr (by decide)⟩

theorem backwardImage_answers :
    ∃ file, File.ofImage backwardImage = .ok file ∧ file.string 1 = .ok "[Lé/A;" ∧
      file.string 2 = .error (.outOfBounds .strings 2) ∧ file.typeName 1 = .ok "int" ∧
      file.proto 0 = .ok ⟨1, [0, 1]⟩ ∧ file.code 114 = .ok [0x0E, 0x1012] := by
  obtain ⟨file, hfile, -, hstring, -, htype, hproto, -, -, -, hcode, -⟩ :=
    file_answers_as_planned backwardPlan backwardImage backwardPlan_laidOut
  refine ⟨file, hfile, hstring 1, hstring 2, ?_, hproto 0, hcode _ (List.mem_singleton_self _)⟩
  exact htype 1 0 (.primitive .int) rfl rfl

end AppSurvey.Dex
