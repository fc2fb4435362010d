/-!
# Strict UTF-8

Reading bytes as UTF-8. Overlong forms, surrogates and values past U+10FFFF are refused where they
begin to differ from every well-formed sequence, so that a fault names the first byte that could not
be read and how many bytes belong to the broken sequence.
-/

namespace AppSurvey.Utf8

/-- Why a sequence could not be read. -/
inductive Defect where
  /-- No sequence begins with this byte. -/
  | start
  /-- After `span` good bytes comes one that does not continue them. -/
  | continuation (span : Nat)
  /-- The bytes end after `span` good bytes of a longer sequence. -/
  | cutShort (span : Nat)
  deriving DecidableEq

/-- The bytes that belong to the broken sequence. -/
def Defect.span : Defect → Nat
  | .start => 1
  | .continuation n => n
  | .cutShort n => n

/-- A defect, the position where its sequence begins and the byte there. -/
structure Fault where
  position : Nat
  byte : UInt8
  defect : Defect
  deriving DecidableEq

/-- The shape of a sequence, known from its first byte: how many bytes follow, which values the
second byte may have, and the bits the first byte contributes. -/
structure Shape where
  follow : Nat
  low : Nat
  high : Nat
  bits : Nat

/-- The shape that a first byte announces. -/
def shape? (b : UInt8) : Option Shape :=
  let n := b.toNat
  if n < 0x80 then some ⟨0, 0, 0, n⟩
  else if n < 0xC2 then none
  else if n < 0xE0 then some ⟨1, 0x80, 0xBF, n - 0xC0⟩
  else if n = 0xE0 then some ⟨2, 0xA0, 0xBF, 0⟩
  else if n = 0xED then some ⟨2, 0x80, 0x9F, 0xD⟩
  else if n < 0xF0 then some ⟨2, 0x80, 0xBF, n - 0xE0⟩
  else if n = 0xF0 then some ⟨3, 0x90, 0xBF, 0⟩
  else if n = 0xF4 then some ⟨3, 0x80, 0x8F, 4⟩
  else if n < 0xF4 then some ⟨3, 0x80, 0xBF, n - 0xF0⟩
  else none

/-- Reads `follow` continuation bytes. The first must lie between `low` and `high`, the later ones
may be any continuation byte; `span` counts the bytes read before, `bits` is their value. -/
def continuations (span bits low high : Nat) : (follow : Nat) → List UInt8 → Except Defect Nat
  | 0, _ => .ok bits
  | _ + 1, [] => .error (.cutShort span)
  | follow + 1, b :: rest =>
      if low ≤ b.toNat ∧ b.toNat ≤ high then
        continuations (span + 1) (bits * 64 + (b.toNat - 0x80)) 0x80 0xBF follow rest
      else .error (.continuation span)

/-- Reads one character, given its first byte and the bytes behind it, and says how many of those
it took. -/
def readChar (b : UInt8) (rest : List UInt8) : Except Defect (Char × Nat) :=
  match shape? b with
  | none => .error .start
  | some shape =>
      (continuations 1 shape.bits shape.low shape.high shape.follow rest).map fun n =>
        (Char.ofNat n, shape.follow)

/-- Reads bytes that begin at `position` of a larger text. -/
def decodeFrom (position : Nat) : List UInt8 → Except Fault (List Char)
  | [] => .ok []
  | b :: rest =>
      match readChar b rest with
      | .error defect => .error ⟨position, b, defect⟩
      | .ok (c, taken) =>
          (decodeFrom (position + taken + 1) (rest.drop taken)).map (c :: ·)
termination_by bytes => bytes.length
decreasing_by simp only [List.length_drop, List.length_cons]; omega

/-- Reads a whole text. -/
def decode (bytes : List UInt8) : Except Fault String :=
  (decodeFrom 0 bytes).map String.ofList

/-- The bytes of one character. -/
def encodeChar (c : Char) : List UInt8 :=
  let n := c.toNat
  if n < 0x80 then [n.toUInt8]
  else if n < 0x800 then [(0xC0 + n / 64).toUInt8, (0x80 + n % 64).toUInt8]
  else if n < 0x10000 then
    [(0xE0 + n / 4096).toUInt8, (0x80 + n / 64 % 64).toUInt8, (0x80 + n % 64).toUInt8]
  else
    [(0xF0 + n / 262144).toUInt8, (0x80 + n / 4096 % 64).toUInt8, (0x80 + n / 64 % 64).toUInt8,
      (0x80 + n % 64).toUInt8]

/-- The bytes of a text. -/
def encode (text : String) : List UInt8 :=
  text.toList.flatMap encodeChar

end AppSurvey.Utf8
