import AppSurvey.Text.Utf8

/-!
# What can be wrong with a DEX file

Every way in which reading a DEX file fails, as a cause; `Fault.message` holds the wording of all of
them in one place.
-/

namespace AppSurvey.Dex

/-- The identifier tables of a DEX file, each an array of items of one size. -/
inductive Table where
  | strings
  | types
  | protos
  | fields
  | methods
  | classes
  deriving DecidableEq

/-- The bytes of one item of the table. -/
def Table.itemSize : Table → Nat
  | .strings => 4
  | .types => 4
  | .protos => 12
  | .fields => 8
  | .methods => 8
  | .classes => 32

/-- The name of one item of the table. -/
def Table.itemName : Table → String
  | .strings => "String"
  | .types => "Type"
  | .protos => "Proto"
  | .fields => "Field"
  | .methods => "Method"
  | .classes => "Class"

/-- A cause for which reading stops. -/
inductive Fault where
  /-- The image is shorter than a header. -/
  | tooSmall
  /-- The first four bytes are not the mark of the format. -/
  | badMagic (found : List UInt8)
  /-- The header announces another size than the one this format has. -/
  | badHeaderSize (found : Nat)
  /-- A bundle has no file of this number. -/
  | noSuchFile (index count : Nat)
  /-- A table has no item of this number. -/
  | outOfBounds (table : Table) (index : Nat)
  /-- The bytes of a string are not UTF-8. -/
  | badText (fault : Utf8.Fault)
  /-- A variable-length number goes on past its fifth byte. -/
  | varintTooLong
  /-- The image ends inside an item. -/
  | truncated
  deriving DecidableEq

namespace Fault

/-- The families of faults, by what they say about the file. -/
inductive Kind where
  /-- The file as a whole is not what it should be. -/
  | invalidFile
  /-- An item inside the file cannot be made sense of. -/
  | unreadableItem
  /-- There are fewer bytes than the item needs. -/
  | missingBytes
  deriving DecidableEq

def kind : Fault → Kind
  | .tooSmall | .badMagic _ | .badHeaderSize _ | .noSuchFile _ _ => .invalidFile
  | .outOfBounds _ _ | .badText _ | .varintTooLong => .unreadableItem
  | .truncated => .missingBytes

/-- The bytes of a mark as a bracketed list of numbers. -/
def byteList (bytes : List UInt8) : String :=
  "[" ++ String.intercalate ", " (bytes.map fun b => toString b.toNat) ++ "]"

/-- Where and why a text is not UTF-8. -/
def textDetail (fault : Utf8.Fault) : String :=
  match fault.defect with
  | .cutShort _ => s!"incomplete utf-8 byte sequence from index {fault.position}"
  | defect => s!"invalid utf-8 sequence of {defect.span} bytes from index {fault.position}"

/-- The cause in words, without the family it belongs to. -/
def detail : Fault → String
  | .tooSmall => "File too small"
  | .badMagic found => s!"Invalid magic: {byteList found}"
  | .badHeaderSize found => s!"Invalid header size: {found} (expected 112)"
  | .noSuchFile index count => s!"DEX index {index} out of bounds (max: {count})"
  | .outOfBounds table index => s!"{table.itemName} index {index} out of bounds"
  | .badText fault => s!"Invalid UTF-8: {textDetail fault}"
  | .varintTooLong => "ULEB128 overflow"
  | .truncated => "failed to fill whole buffer"

/-- The whole message: the family, then the cause. -/
def message (fault : Fault) : String :=
  match fault.kind with
  | .invalidFile => "Invalid DEX file: " ++ fault.detail
  | .unreadableItem => "Failed to parse DEX file: " ++ fault.detail
  | .missingBytes => "IO error: " ++ fault.detail

end Fault

end AppSurvey.Dex
