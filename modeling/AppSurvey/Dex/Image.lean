import AppSurvey.Dex.Fault

/-!
# Reading a byte image

A `Reader` stands at a position of an image and gives a value together with the position behind it.
Positions are unbounded: standing past the end is allowed, reading there is the fault `truncated`.
Numbers are little-endian.
-/

namespace AppSurvey.Dex

/-- The bytes of one file. -/
abbrev Image := Array UInt8

/-- Reads a value at a position of an image and moves behind it. -/
abbrev Reader := ReaderT Image (StateT Nat (Except Fault))

namespace Reader

/-- Reads at `position` and forgets where the value ended. -/
def readAt {α : Type} (reader : Reader α) (image : Image) (position : Nat) : Except Fault α :=
  (reader image position).map Prod.fst

/-- One byte. -/
def byte : Reader UInt8 := fun image position =>
  match image[position]? with
  | some b => .ok (b, position + 1)
  | none => .error .truncated

/-- Two bytes, the lower first. -/
def word : Reader UInt16 := do
  let low ← byte
  let high ← byte
  return (low.toNat + 256 * high.toNat).toUInt16

/-- Four bytes, the lowest first. -/
def dword : Reader UInt32 := do
  let low ← word
  let high ← word
  return (low.toNat + 65536 * high.toNat).toUInt32

/-- The same reading `n` times over, the values in order. -/
def times {α : Type} (reader : Reader α) : Nat → Reader (List α)
  | 0 => return []
  | n + 1 => do
      let first ← reader
      let rest ← times reader n
      return first :: rest

/-- Goes on with a number in groups of seven bits, the lowest first, every byte but the last with its
high bit set. `value` holds the groups before, the next one begins at the bit `shift`, and `left` bytes
may still be read. -/
def groups : (left : Nat) → (value shift : UInt32) → Reader UInt32
  | 0, _, _ => throw .varintTooLong
  | left + 1, value, shift => do
      let b ← byte
      let value := value ||| (b &&& 0x7F).toUInt32 <<< shift
      if b &&& 0x80 = 0 then
        return value
      else
        groups left value (shift + 7)

/-- A variable-length number of at most five bytes. The fifth group begins at the bit 28, so its upper
three bits are shifted out of the word. -/
def varint : Reader UInt32 := groups 5 0 0

/-- Every byte before the next zero byte. The image ends the search at the latest, so the bytes it
has left bound the number of steps. -/
def untilZero : (left : Nat) → Reader (List UInt8)
  | 0 => throw .truncated
  | left + 1 => do
      let b ← byte
      if b = 0 then
        return []
      else
        let rest ← untilZero left
        return b :: rest

/-- Every byte before the next zero byte of the image. -/
def zeroTerminated : Reader (List UInt8) := fun image position =>
  untilZero (image.size - position + 1) image position

end Reader

end AppSurvey.Dex
