import AppSurvey.Dex.ClassData
import AppSurvey.Proofs.Dex.Image

/-!
# Class data is read back

How the members of a class are written, and that reading them gives the same members, in whatever
order their indices stand: a difference is taken modulo 2^32, and so is the sum that undoes it. Each
number may stand in any of its variable-length forms; `ClassData.bytes` takes the shortest.
-/

namespace AppSurvey.Dex

namespace ClassData

/-! ## How members are written -/

/-- Fields as they are written, the first index relative to `last`. -/
inductive FieldsWritten : (last : UInt32) → List FieldEntry → List UInt8 → Prop
  | nil (last : UInt32) : FieldsWritten last [] []
  | cons {last : UInt32} {entry : FieldEntry} {rest : List FieldEntry}
      {difference access bytes : List UInt8}
      (hdifference : IsVarint difference (entry.field - last))
      (haccess : IsVarint access entry.access) (hrest : FieldsWritten entry.field rest bytes) :
      FieldsWritten last (entry :: rest) (difference ++ (access ++ bytes))

/-- Methods as they are written, the first index relative to `last`. -/
inductive MethodsWritten : (last : UInt32) → List MethodEntry → List UInt8 → Prop
  | nil (last : UInt32) : MethodsWritten last [] []
  | cons {last : UInt32} {entry : MethodEntry} {rest : List MethodEntry}
      {difference access code bytes : List UInt8}
      (hdifference : IsVarint difference (entry.method - last))
      (haccess : IsVarint access entry.access) (hcode : IsVarint code entry.code)
      (hrest : MethodsWritten entry.method rest bytes) :
      MethodsWritten last (entry :: rest) (difference ++ (access ++ (code ++ bytes)))

/-- The bytes give the length of a list. -/
def IsCount {α : Type} (bytes : List UInt8) (items : List α) : Prop :=
  ∃ n : UInt32, n.toNat = items.length ∧ IsVarint bytes n

/-- Members as they are written: four counts, then four lists that each begin again at zero. -/
inductive Written (data : ClassData) : List UInt8 → Prop
  | mk {statics instances directs virtuals : List UInt8}
      {staticFields instanceFields directMethods virtualMethods : List UInt8}
      (hstatics : IsCount statics data.staticFields)
      (hinstances : IsCount instances data.instanceFields)
      (hdirects : IsCount directs data.directMethods)
      (hvirtuals : IsCount virtuals data.virtualMethods)
      (hstaticFields : FieldsWritten 0 data.staticFields staticFields)
      (hinstanceFields : FieldsWritten 0 data.instanceFields instanceFields)
      (hdirectMethods : MethodsWritten 0 data.directMethods directMethods)
      (hvirtualMethods : MethodsWritten 0 data.virtualMethods virtualMethods) :
      Written data (statics ++ (instances ++ (directs ++ (virtuals ++
        (staticFields ++ (instanceFields ++ (directMethods ++ virtualMethods)))))))

/-! ## Reading members -/

open Reader

theorem add_difference (last index : UInt32) : last + (index - last) = index := by
  rw [UInt32.add_comm, UInt32.sub_add_cancel]

theorem reads_readFields {last : UInt32} {entries : List FieldEntry} {bytes : List UInt8}
    (hwritten : FieldsWritten last entries bytes) :
    (readFields last entries.length).Reads bytes entries := by
  induction hwritten with
  | nil => exact Reads.pure []
  | cons hdifference haccess _ ih =>
      refine (reads_varint hdifference).bind ((reads_varint haccess).bind ?_)
      rw [add_difference]
      exact ih.map _

theorem reads_readMethods {last : UInt32} {entries : List MethodEntry} {bytes : List UInt8}
    (hwritten : MethodsWritten last entries bytes) :
    (readMethods last entries.length).Reads bytes entries := by
  induction hwritten with
  | nil => exact Reads.pure []
  | cons hdifference haccess hcode _ ih =>
      refine (reads_varint hdifference).bind
        ((reads_varint haccess).bind ((reads_varint hcode).bind ?_))
      rw [add_difference]
      exact ih.map _

theorem reads_read {data : ClassData} {bytes : List UInt8} (hwritten : data.Written bytes) :
    read.Reads bytes data := by
  obtain ⟨⟨_, hstaticCount, hstatics⟩, ⟨_, hinstanceCount, hinstances⟩,
    ⟨_, hdirectCount, hdirects⟩, ⟨_, hvirtualCount, hvirtuals⟩,
    hstaticFields, hinstanceFields, hdirectMethods, hvirtualMethods⟩ := hwritten
  refine (reads_varint hstatics).bind ((reads_varint hinstances).bind
    ((reads_varint hdirects).bind ((reads_varint hvirtuals).bind ?_)))
  rw [hstaticCount, hinstanceCount, hdirectCount, hvirtualCount]
  refine (reads_readFields hstaticFields).bind ((reads_readFields hinstanceFields).bind
    ((reads_readMethods hdirectMethods).bind ?_))
  exact (reads_readMethods hvirtualMethods).map _

/-! ## The shortest form -/

/-- Fields in the shortest form. -/
def fieldBytes (last : UInt32) : List FieldEntry → List UInt8
  | [] => []
  | entry :: rest =>
      varintBytes (entry.field - last).toNat ++
        (varintBytes entry.access.toNat ++ fieldBytes entry.field rest)

/-- Methods in the shortest form. -/
def methodBytes (last : UInt32) : List MethodEntry → List UInt8
  | [] => []
  | entry :: rest =>
      varintBytes (entry.method - last).toNat ++
        (varintBytes entry.access.toNat ++
          (varintBytes entry.code.toNat ++ methodBytes entry.method rest))

/-- Members in the shortest form. -/
def bytes (data : ClassData) : List UInt8 :=
  varintBytes data.staticFields.length ++ (varintBytes data.instanceFields.length ++
    (varintBytes data.directMethods.length ++ (varintBytes data.virtualMethods.length ++
      (fieldBytes 0 data.staticFields ++ (fieldBytes 0 data.instanceFields ++
        (methodBytes 0 data.directMethods ++ methodBytes 0 data.virtualMethods))))))

theorem fieldsWritten_fieldBytes (last : UInt32) (entries : List FieldEntry) :
    FieldsWritten last entries (fieldBytes last entries) := by
  induction entries generalizing last with
  | nil => exact .nil last
  | cons entry rest ih =>
      exact .cons (isVarint_varintBytes _) (isVarint_varintBytes _) (ih entry.field)

theorem methodsWritten_methodBytes (last : UInt32) (entries : List MethodEntry) :
    MethodsWritten last entries (methodBytes last entries) := by
  induction entries generalizing last with
  | nil => exact .nil last
  | cons entry rest ih =>
      exact .cons (isVarint_varintBytes _) (isVarint_varintBytes _) (isVarint_varintBytes _)
        (ih entry.method)

theorem isCount_varintBytes {α : Type} {items : List α} (hlength : items.length < UInt32.size) :
    IsCount (varintBytes items.length) items := by
  have hcount : items.length.toUInt32.toNat = items.length := UInt32.toNat_ofNat_of_lt' hlength
  have hvarint := isVarint_varintBytes items.length.toUInt32
  rw [hcount] at hvarint
  exact ⟨_, hcount, hvarint⟩

/-- Members whose lists are short enough to be counted can be written. -/
theorem written_bytes {data : ClassData} (hstatics : data.staticFields.length < UInt32.size)
    (hinstances : data.instanceFields.length < UInt32.size)
    (hdirects : data.directMethods.length < UInt32.size)
    (hvirtuals : data.virtualMethods.length < UInt32.size) : data.Written data.bytes :=
  ⟨isCount_varintBytes hstatics, isCount_varintBytes hinstances, isCount_varintBytes hdirects,
    isCount_varintBytes hvirtuals, fieldsWritten_fieldBytes 0 _, fieldsWritten_fieldBytes 0 _,
    methodsWritten_methodBytes 0 _, methodsWritten_methodBytes 0 _⟩

end ClassData

/-- Class data is read back as it was written, whatever stands before and behind it. -/
theorem classData_eq_of_written (file : File) (data : ClassData) {bytes : List UInt8}
    (hwritten : data.Written bytes) (offset : UInt32) (hoffset : offset ≠ 0)
    (hbytes : Holds file.image offset.toNat bytes) :
    file.classData offset.toNat = .ok data := by
  rw [File.classData, if_neg (toNat_ne_zero hoffset)]
  exact (ClassData.reads_read hwritten).readAt hbytes

/-- Two fields whose indices descend, so that the second difference wraps, and a method. -/
def descendingFields : ClassData :=
  { staticFields := [⟨5, 1⟩, ⟨2, 0⟩]
    directMethods := [⟨7, 9, 300⟩] }

/-- A file with nothing but some bytes of members in it. -/
def fileOfMembers (image : Image) : File :=
  { image
    header := {
      magic := Header.mark
      version := []
      checksum := 0
      signature := []
      fileSize := 0
      headerSize := 112
      endianTag := 0
      link := ⟨0, 0⟩
      mapOffset := 0
      strings := ⟨0, 0⟩
      types := ⟨0, 0⟩
      protos := ⟨0, 0⟩
      fields := ⟨0, 0⟩
      methods := ⟨0, 0⟩
      classes := ⟨0, 0⟩
      data := ⟨0, 0⟩ } }

theorem classData_of_descendingFields :
    (fileOfMembers #[0xFF, 2, 0, 1, 0, 5, 1, 0xFD, 0xFF, 0xFF, 0xFF, 0x0F, 0, 7, 9, 0xAC, 2,
      0x80]).classData 1 = .ok descendingFields := by
  have hwritten : descendingFields.Written descendingFields.bytes :=
    ClassData.written_bytes (by decide) (by decide) (by decide) (by decide)
  exact classData_eq_of_written _ descendingFields hwritten 1 (by decide) (by decide +kernel)

end AppSurvey.Dex
