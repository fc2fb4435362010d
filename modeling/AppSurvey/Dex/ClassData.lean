import AppSurvey.Dex.File

/-!
# The members of a class

A class lists its members as variable-length numbers. Within each of the four lists an index is
written as its difference from the index before, modulo 2^32, and each list begins again at zero.
-/

namespace AppSurvey.Dex

/-- A field that a class declares. -/
structure FieldEntry where
  field : UInt32
  access : UInt32
  deriving DecidableEq

/-- A method that a class declares, with the offset of its code. -/
structure MethodEntry where
  method : UInt32
  access : UInt32
  code : UInt32
  deriving DecidableEq

/-- The members of a class. -/
structure ClassData where
  staticFields : List FieldEntry := []
  instanceFields : List FieldEntry := []
  directMethods : List MethodEntry := []
  virtualMethods : List MethodEntry := []
  deriving DecidableEq

namespace ClassData

/-- Reads `n` field entries, the first relative to `last`. -/
def readFields (last : UInt32) : Nat → Reader (List FieldEntry)
  | 0 => return []
  | n + 1 => do
      let difference ← Reader.varint
      let access ← Reader.varint
      let rest ← readFields (last + difference) n
      return { field := last + difference, access } :: rest

/-- Reads `n` method entries, the first relative to `last`. -/
def readMethods (last : UInt32) : Nat → Reader (List MethodEntry)
  | 0 => return []
  | n + 1 => do
      let difference ← Reader.varint
      let access ← Reader.varint
      let code ← Reader.varint
      let rest ← readMethods (last + difference) n
      return { method := last + difference, access, code } :: rest

/-- Reads the four counts and then the four lists. -/
def read : Reader ClassData := do
  let statics ← Reader.varint
  let instances ← Reader.varint
  let directs ← Reader.varint
  let virtuals ← Reader.varint
  let staticFields ← readFields 0 statics.toNat
  let instanceFields ← readFields 0 instances.toNat
  let directMethods ← readMethods 0 directs.toNat
  let virtualMethods ← readMethods 0 virtuals.toNat
  return { staticFields, instanceFields, directMethods, virtualMethods }

/-- The fields, static ones first. -/
def fields (data : ClassData) : List FieldEntry :=
  data.staticFields ++ data.instanceFields

/-- The methods, direct ones first. -/
def methods (data : ClassData) : List MethodEntry :=
  data.directMethods ++ data.virtualMethods

end ClassData

/-- The members at an offset; offset zero stands for a class without any. -/
def File.classData (file : File) (offset : Nat) : Except Fault ClassData :=
  if offset = 0 then .ok {}
  else ClassData.read.readAt file.image offset

end AppSurvey.Dex
