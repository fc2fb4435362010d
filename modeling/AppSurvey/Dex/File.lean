import AppSurvey.Dex.Descriptor
import AppSurvey.Dex.Image

/-!
# DEX files

A DEX file is an image with a readable header. Its identifier tables are addressed through the header:
an index past the declared size is `outOfBounds`, whatever bytes stand there, and an item that the
image does not hold in full is `truncated`.
-/

namespace AppSurvey.Dex

/-- A part of the file: how many items, and where they begin. -/
structure Extent where
  size : UInt32
  offset : UInt32
  deriving DecidableEq

/-- The fixed part at the beginning of every file. -/
structure Header where
  magic : List UInt8
  version : List UInt8
  checksum : UInt32
  signature : List UInt8
  fileSize : UInt32
  headerSize : UInt32
  endianTag : UInt32
  link : Extent
  mapOffset : UInt32
  strings : Extent
  types : Extent
  protos : Extent
  fields : Extent
  methods : Extent
  classes : Extent
  data : Extent
  deriving DecidableEq

namespace Header

/-- The extent of a table. -/
def extent (header : Header) : Table → Extent
  | .strings => header.strings
  | .types => header.types
  | .protos => header.protos
  | .fields => header.fields
  | .methods => header.methods
  | .classes => header.classes

/-- The mark that every file begins with. -/
def mark : List UInt8 := [0x64, 0x65, 0x78, 0x0A]

/-- The bytes of a header. -/
def byteCount : Nat := 112

/-- The versions of the format that are fully known. -/
def knownVersions : List (List UInt8) :=
  ["035\x00", "037\x00", "038\x00", "039\x00", "040\x00"].map fun version =>
    version.toList.map fun c => c.toNat.toUInt8

/-- Is this version of the format fully known? -/
def isKnownVersion (version : List UInt8) : Bool :=
  knownVersions.contains version

def readExtent : Reader Extent := do
  let size ← Reader.dword
  let offset ← Reader.dword
  return { size, offset }

/-- The header at the beginning of an image. Its mark and its own size are checked where they are
read, so that the first of two faults is the one reported. -/
def read : Reader Header := do
  let magic ← Reader.byte.times 4
  unless magic = mark do throw (.badMagic magic)
  let version ← Reader.byte.times 4
  let checksum ← Reader.dword
  let signature ← Reader.byte.times 20
  let fileSize ← Reader.dword
  let headerSize ← Reader.dword
  unless headerSize.toNat = byteCount do throw (.badHeaderSize headerSize.toNat)
  let endianTag ← Reader.dword
  let link ← readExtent
  let mapOffset ← Reader.dword
  let strings ← readExtent
  let types ← readExtent
  let protos ← readExtent
  let fields ← readExtent
  let methods ← readExtent
  let classes ← readExtent
  let data ← readExtent
  return {
    magic, version, checksum, signature, fileSize, headerSize, endianTag, link, mapOffset
    strings, types, protos, fields, methods, classes, data }

end Header

/-- A DEX file: an image and the header read from it. -/
structure File where
  image : Image
  header : Header

/-- A prototype: the types of a method's result and parameters, as type numbers. -/
structure Proto where
  returnType : UInt32
  parameters : List UInt16
  deriving DecidableEq

/-- A reference to a field, as numbers of types and strings. -/
structure FieldRef where
  owner : UInt16
  type : UInt16
  name : UInt32
  deriving DecidableEq

/-- A reference to a method, as numbers of types, prototypes and strings. -/
structure MethodRef where
  owner : UInt16
  proto : UInt16
  name : UInt32
  deriving DecidableEq

/-- The definition of a class, as numbers and offsets. -/
structure ClassDef where
  type : UInt32
  access : UInt32
  superclass : UInt32
  interfaces : UInt32
  sourceFile : UInt32
  annotations : UInt32
  classData : UInt32
  staticValues : UInt32
  deriving DecidableEq

namespace Proto

/-- The parameter types listed at an offset; offset zero stands for none. -/
def readParameters (image : Image) (offset : Nat) : Except Fault (List UInt16) :=
  if offset = 0 then .ok []
  else
    (do
      let size ← Reader.dword
      Reader.word.times size.toNat : Reader (List UInt16)).readAt image offset

end Proto

namespace File

/-- Opens an image whose header can be read. -/
def ofImage (image : Image) : Except Fault File := do
  if image.size < Header.byteCount then throw .tooSmall
  let header ← Header.read.readAt image 0
  return { image, header }

/-- Reads one item of a table. -/
def item {α : Type} (file : File) (table : Table) (index : Nat) (reader : Reader α) :
    Except Fault α :=
  let extent := file.header.extent table
  if extent.size.toNat ≤ index then .error (.outOfBounds table index)
  else reader.readAt file.image (extent.offset.toNat + index * table.itemSize)

/-- The text at an offset: its length in characters, which is not needed, then its bytes up to a
zero byte. -/
def textAt (file : File) (offset : Nat) : Except Fault String := do
  let bytes ← (do
    let _length ← Reader.varint
    Reader.zeroTerminated : Reader (List UInt8)).readAt file.image offset
  match Utf8.decode bytes with
  | .ok text => .ok text
  | .error fault => .error (.badText fault)

/-- The string of a number. -/
def string (file : File) (index : Nat) : Except Fault String := do
  let offset ← file.item .strings index Reader.dword
  file.textAt offset.toNat

/-- The name of the type of a number. -/
def typeName (file : File) (index : Nat) : Except Fault String := do
  let descriptor ← file.item .types index Reader.dword
  let text ← file.string descriptor.toNat
  return Descriptor.typeName text

/-- The prototype of a number. -/
def proto (file : File) (index : Nat) : Except Fault Proto := do
  let (returnType, parameters) ← file.item .protos index (do
    let _shorty ← Reader.dword
    let returnType ← Reader.dword
    let parameters ← Reader.dword
    return (returnType, parameters))
  let parameters ← Proto.readParameters file.image parameters.toNat
  return { returnType, parameters }

/-- The field reference of a number. -/
def field (file : File) (index : Nat) : Except Fault FieldRef :=
  file.item .fields index (do
    let owner ← Reader.word
    let type ← Reader.word
    let name ← Reader.dword
    return { owner, type, name })

/-- The method reference of a number. -/
def method (file : File) (index : Nat) : Except Fault MethodRef :=
  file.item .methods index (do
    let owner ← Reader.word
    let proto ← Reader.word
    let name ← Reader.dword
    return { owner, proto, name })

/-- How many classes the file declares. -/
def classCount (file : File) : Nat :=
  file.header.classes.size.toNat

/-- The class definition of a number. -/
def classDef (file : File) (index : Nat) : Except Fault ClassDef :=
  file.item .classes index (do
    let type ← Reader.dword
    let access ← Reader.dword
    let superclass ← Reader.dword
    let interfaces ← Reader.dword
    let sourceFile ← Reader.dword
    let annotations ← Reader.dword
    let classData ← Reader.dword
    let staticValues ← Reader.dword
    return {
      type, access, superclass, interfaces, sourceFile, annotations, classData, staticValues })

/-- The words of a code item: register counts, the number of handlers and the place of the debug
information come first and are skipped. Offset zero stands for a method without code. -/
def code (file : File) (offset : Nat) : Except Fault (List UInt16) :=
  if offset = 0 then .ok []
  else
    (do
      let _registers ← Reader.word
      let _ins ← Reader.word
      let _outs ← Reader.word
      let _tries ← Reader.word
      let _debug ← Reader.dword
      let size ← Reader.dword
      Reader.word.times size.toNat : Reader (List UInt16)).readAt file.image offset

end File

end AppSurvey.Dex
