import AppSurvey.Calendar
import AppSurvey.Slice
import AppSurvey.Text.WholeNumber
import AppSurvey.Value

/-!
# Using values

What others tell arrives unchecked, so a value may be put to a use that its kind does not allow. The
operations here say what each use gives for the kinds that allow it, and `Misuse` says why a value
cannot be used so. Truth counts as the number one and falsehood as zero.
-/

namespace AppSurvey

/-- A use that a value does not allow. -/
inductive Misuse where
  /-- There are no items to go through. -/
  | noItems (kind : String)
  /-- It is no number of items to take, or one below zero. -/
  | noTaking
  | negativeTaking
  /-- There is nothing to count. -/
  | noCount (kind : String)
  /-- There is nothing to look for a text in. -/
  | noContent (kind : String)
  /-- There is no part of the name. -/
  | noPart (kind part : String)
  /-- There are no parts to take apart. -/
  | undivided (kind : String)
  | tooFewParts (expected got : Nat)
  | tooManyParts (expected : Nat)
  /-- Two kinds have no order. -/
  | noOrder (relation left right : String)
  /-- Decimal places are for numbers. -/
  | noPlaces (kind : String)
  | noPlacesInText
  | noRounding (kind : String)
  /-- There is no whole number in it. -/
  | noWhole (kind : String)
  | unreadableWhole (fault : Text.WholeNumberFault)
  | infiniteWhole
  | undefinedWhole
  /-- It is no count of seconds, or none that is a point in time. -/
  | noSeconds (kind : String)
  | noMoment (fault : Calendar.Fault)
  /-- It is no position in a list. -/
  | noPosition
  /-- It is no path. -/
  | noPath (kind : String)
  /-- It is no text that can be kept once. -/
  | noSharing (kind : String)
  /-- Nothing can be filed under it. -/
  | noKey (kind : String)
  /-- It does nothing when it is called, or it is nothing that can be written. -/
  | noCalling (kind : String)
  | noWriting (kind : String)
  /-- There are no texts to join, or one of the items is none. -/
  | noJoining
  | noText (position : Nat) (kind : String)
  /-- There are no fields to take over, or an item is no pair of a key and its value. -/
  | noFields (kind : String)
  | noEntry (position : Nat)
  | entrySize (position size : Nat)
  /-- A call has an argument that it does not know, has twice or cannot have, or lacks one. -/
  | unknownArgument (call name : String)
  | repeatedArgument (call name : String)
  | noNamedArguments (call : String)
  | tooManyArguments (call : String) (least most given : Nat)
  | missingArguments (call : String) (names : List String)
  /-- A whole number is too large for a floating-point number. -/
  | tooLarge
  /-- A limit is below zero. -/
  | negativeLimit
  /-- No record can be made of it, since it is not like a record of its kind has to be. -/
  | refused (message : String)
  deriving DecidableEq

namespace Misuse

/-- What a misuse has to do with. -/
inductive Concern where
  | kind
  | part
  | content
  | size
  | system
  | record
  deriving DecidableEq

/-- What a count of seconds that is no point in time has to do with. -/
def momentConcern : Calendar.Fault → Concern
  | .yearOutOfRange _ | .undefinedSeconds => .content
  | .yearTooLarge => .system
  | .secondsTooLarge => .size

def concern : Misuse → Concern
  | .noPart _ _ => .part
  | .tooFewParts _ _ | .tooManyParts _ | .noPlacesInText | .unreadableWhole _
  | .undefinedWhole | .negativeLimit | .entrySize _ _ | .noTaking | .negativeTaking => .content
  | .tooLarge | .infiniteWhole => .size
  | .noMoment fault => momentConcern fault
  | .refused _ => .record
  | _ => .kind

/-- Names in a sentence. -/
def namesText : List String → String
  | [] => ""
  | [one] => s!"'{one}'"
  | [one, other] => s!"'{one}' and '{other}'"
  | names =>
      let before := (names.dropLast).map fun name => s!"'{name}'"
      let last := names.getLast?.getD ""
      let before := Text.commaList before
      s!"{before}, and '{last}'"

/-- How many arguments a call takes. -/
def rangeText (least most : Nat) : String :=
  if least < most then s!"from {least} to {most} positional arguments"
  else if most = 1 then "1 positional argument"
  else s!"{most} positional arguments"

def message : Misuse → String
  | .noItems kind => s!"'{kind}' object is not iterable"
  | .noTaking =>
      "Stop argument for islice() must be None or an integer: 0 <= x <= sys.maxsize."
  | .negativeTaking => "Indices for islice() must be None or an integer: 0 <= x <= sys.maxsize."
  | .noCount kind => s!"object of type '{kind}' has no len()"
  | .noContent kind => s!"argument of type '{kind}' is not iterable"
  | .noPart kind part => s!"'{kind}' object has no attribute '{part}'"
  | .undivided kind => s!"cannot unpack non-iterable {kind} object"
  | .tooFewParts expected got =>
      s!"not enough values to unpack (expected {expected}, got {got})"
  | .tooManyParts expected => s!"too many values to unpack (expected {expected})"
  | .noOrder relation left right =>
      s!"'{relation}' not supported between instances of '{left}' and '{right}'"
  | .noPlaces kind => s!"unsupported format string passed to {kind}.__format__"
  | .noPlacesInText => "Unknown format code 'f' for object of type 'str'"
  | .noRounding kind => s!"type {kind} doesn't define __round__ method"
  | .noWhole kind =>
      s!"int() argument must be a string, a bytes-like object or a real number, not '{kind}'"
  | .unreadableWhole fault => fault.message
  | .infiniteWhole => "cannot convert float infinity to integer"
  | .undefinedWhole => "cannot convert float NaN to integer"
  | .noSeconds kind => s!"'{kind}' object cannot be interpreted as an integer"
  | .noMoment fault => fault.message
  | .noPosition => "slice indices must be integers or None or have an __index__ method"
  | .noPath kind => s!"expected str, bytes or os.PathLike object, not {kind}"
  | .noSharing kind => s!"intern() argument must be str, not {kind}"
  | .noKey kind => s!"unhashable type: '{kind}'"
  | .noCalling kind => s!"'{kind}' object is not callable"
  | .noWriting kind => s!"data must be str, not {kind}"
  | .noJoining => "can only join an iterable"
  | .noText position kind => s!"sequence item {position}: expected str instance, {kind} found"
  | .noFields kind => s!"'{kind}' object is not a mapping"
  | .noEntry position =>
      s!"cannot convert dictionary update sequence element #{position} to a sequence"
  | .entrySize position size =>
      s!"dictionary update sequence element #{position} has length {size}; 2 is required"
  | .unknownArgument call name => s!"{call}() got an unexpected keyword argument '{name}'"
  | .repeatedArgument call name => s!"{call}() got multiple values for argument '{name}'"
  | .noNamedArguments call => s!"{call}() takes no keyword arguments"
  | .tooManyArguments call least most given =>
      let verb := if given = 1 then "was" else "were"
      s!"{call}() takes {rangeText least most} but {given} {verb} given"
  | .missingArguments call names =>
      let noun := if names.length = 1 then "argument" else "arguments"
      s!"{call}() missing {names.length} required positional {noun}: {namesText names}"
  | .tooLarge => "int too large to convert to float"
  | .negativeLimit => "Semaphore initial value must be >= 0"
  | .refused message => message

end Misuse

/-- The kind of a number, as messages name it. -/
def Number.kind : Number → String
  | .int _ => "int"
  | _ => "float"

namespace Value

/-- The kind of a value, as messages name it. -/
def kind : Value → String
  | .null => "NoneType"
  | .bool _ => "bool"
  | .number n => n.kind
  | .string _ => "str"
  | .list _ => "list"
  | .record _ => "dict"

/-- The number that a value is. -/
def number? : Value → Option Number
  | .number n => some n
  | .bool true => some (.int 1)
  | .bool false => some (.int 0)
  | _ => none

/-- A part of a record. A part that is not told is nothing. -/
def part (value : Value) (name : String) : Except Misuse Value :=
  match value with
  | .record fields => .ok ((fields.lookup name).getD .null)
  | other => .error (.noPart other.kind name)

/-- Fails where a value does not offer a service. Only records do, and not under the name of something
that they tell. -/
def requireService (value : Value) (name : String) : Except Misuse Unit :=
  match value with
  | .record fields =>
      match fields.lookup name with
      | some told => .error (.noCalling told.kind)
      | none => .ok ()
  | other => .error (.noPart other.kind name)

/-- The items that a value has: those of a list, the characters of a text, or the keys of a record. -/
def items? : Value → Option (List Value)
  | .list items => some items
  | .string text => some (text.toList.map fun c => .string (String.singleton c))
  | .record fields => some (fields.map fun field => .string field.1)
  | _ => none

/-- The items of a value, to go through them. -/
def each (value : Value) : Except Misuse (List Value) :=
  match value.items? with
  | some items => .ok items
  | none => .error (.noItems value.kind)

/-- How many items a value has. -/
def count (value : Value) : Except Misuse Nat :=
  match value.items? with
  | some items => .ok items.length
  | none => .error (.noCount value.kind)

/-- The parts of a value that has exactly so many. -/
def parts (value : Value) (expected : Nat) : Except Misuse (List Value) :=
  match value.items? with
  | none => .error (.undivided value.kind)
  | some items =>
      if items.length < expected then .error (.tooFewParts expected items.length)
      else if expected < items.length then .error (.tooManyParts expected)
      else .ok items

/-- The two parts of a pair. -/
def pair (value : Value) : Except Misuse (Value × Value) :=
  (value.parts 2).map fun parts => (parts[0]?.getD .null, parts[1]?.getD .null)

/-- Is the value that of zero? -/
def isZero (value : Value) : Bool := value.number?.any Number.isZero

/-- Is the value a number of at least `bound`? -/
def atLeast (value : Value) (bound : Number) : Except Misuse Bool :=
  match value.number? with
  | some n => .ok (n.atLeast bound)
  | none => .error (.noOrder ">=" value.kind bound.kind)

/-- Is the value a number that a whole number has come up to? -/
def reachedBy (value : Value) (n : Int) : Except Misuse Bool :=
  match value.number? with
  | some bound => .ok ((Number.int n).atLeast bound)
  | none => .error (.noOrder ">=" "int" value.kind)

/-- Is the value a number below zero? -/
def isNegative (value : Value) : Except Misuse Bool :=
  match value.number? with
  | some n => .ok (n.less (.int 0))
  | none => .error (.noOrder "<" value.kind "int")

/-- A number with a fixed count of decimal places. -/
def fixed (value : Value) (places : Nat) : Except Misuse String :=
  match value.number?, value with
  | some n, _ =>
      match n.fixed? places with
      | some text => .ok text
      | none => .error .tooLarge
  | none, .string _ => .error .noPlacesInText
  | none, other => .error (.noPlaces other.kind)

/-- A number rounded to a count of decimal places. -/
def rounded (value : Value) (places : Nat) : Except Misuse Value :=
  match value.number? with
  | some n => .ok (.number (n.roundPlaces places))
  | none => .error (.noRounding value.kind)

/-- The whole number that a number has before its point. -/
def wholePart : Number → Except Misuse Int
  | .int n => .ok n
  | .float x =>
      let (num, den) := x.ratio
      .ok (if x.negative then -((num / den : Nat) : Int) else ((num / den : Nat) : Int))
  | .infinite _ => .error .infiniteWhole
  | .undefined => .error .undefinedWhole

/-- The whole number that a value is, or that a text writes. -/
def whole (value : Value) : Except Misuse Int :=
  match value.number?, value with
  | some n, _ => wholePart n
  | none, .string text => (Text.wholeNumber text).mapError .unreadableWhole
  | none, other => .error (.noWhole other.kind)

/-- The position in a list that a value is. Nothing is no position. -/
def position (value : Value) : Except Misuse (Option Int) :=
  match value.number?, value with
  | some (.int n), _ => .ok (some n)
  | none, .null => .ok none
  | _, _ => .error .noPosition

/-- The items of a list before the position that a value is; nothing is the end of the list. -/
def cut {α : Type} (value : Value) (items : List α) : Except Misuse (List α) := do
  match ← value.position with
  | some last => return sliceTo items last
  | none => return items

/-- The items of a list between the positions that two values are; nothing is the nearer end of the
list. -/
def cutBetween {α : Type} (first last : Value) (items : List α) : Except Misuse (List α) := do
  let first ← first.position
  let last ← last.position
  return slice items (first.getD 0) (last.getD items.length)

/-- The greatest position that there can be. -/
def lastPosition : Int := 0x7FFFFFFFFFFFFFFF

/-- How many items are to be taken; nothing is all of them. -/
def taking (value : Value) : Except Misuse (Option Nat) :=
  match value.number?, value with
  | some (.int n), _ =>
      if 0 ≤ n ∧ n ≤ lastPosition then .ok (some n.toNat)
      else if -lastPosition - 1 ≤ n ∧ n < -1 then .error .negativeTaking
      else .error .noTaking
  | none, .null => .ok none
  | _, _ => .error .noTaking

/-- The text that a value is, to do with it what only texts allow. -/
def asText (value : Value) (use : String) : Except Misuse String :=
  match value with
  | .string text => .ok text
  | other => .error (.noPart other.kind use)

/-- The point in time of a number of seconds. -/
def moment (value : Value) : Except Misuse Calendar.Moment :=
  match value.number? with
  | some seconds => (Calendar.ofTimestamp seconds).mapError .noMoment
  | none => .error (.noSeconds value.kind)

/-- The text of a path. -/
def pathText : Value → Except Misuse String
  | .string text => .ok text
  | other => .error (.noPath other.kind)

/-- The text that a value is, to write it into a file. -/
def writable : Value → Except Misuse String
  | .string text => .ok text
  | other => .error (.noWriting other.kind)

/-- Fails for what nothing can be filed under: only what never changes can be a key. -/
def requireKey : Value → Except Misuse Unit
  | .list _ => .error (.noKey "list")
  | .record _ => .error (.noKey "dict")
  | _ => .ok ()

/-- The texts among items, which start at a position, if all of them are. -/
def textsFrom (position : Nat) : List Value → Except Misuse (List String)
  | [] => .ok []
  | .string text :: rest => (textsFrom (position + 1) rest).map (text :: ·)
  | other :: _ => .error (.noText position other.kind)

/-- The items of a value as one text, with a blank between them. -/
def joined (value : Value) : Except Misuse String :=
  match value.items? with
  | none => .error .noJoining
  | some items => (textsFrom 0 items).map (String.intercalate " ")

/-- Fails for what is no text that can be kept once. -/
def requireText : Value → Except Misuse Unit
  | .string _ => .ok ()
  | .null => .error (.noSharing "None")
  | other => .error (.noSharing other.kind)

mutual

/-- Are two values the same? Numbers are by what they stand for, and the order of the fields of a
record does not count. -/
def same : Value → Value → Bool
  | .null, .null => true
  | .string a, .string b => a == b
  | .list as, .list bs => sameItems as bs
  | .record as, .record bs => as.length == bs.length && sameFields as bs
  | .bool a, b => b.number?.any (Number.same (.int (if a then 1 else 0)))
  | .number a, b => b.number?.any a.alike
  | _, _ => false

/-- Are the items of two lists the same, one by one? -/
def sameItems : List Value → List Value → Bool
  | [], [] => true
  | a :: as, b :: bs => same a b && sameItems as bs
  | _, _ => false

/-- Has a record all the given fields? -/
def sameFields : List (String × Value) → List (String × Value) → Bool
  | [], _ => true
  | (key, a) :: as, bs =>
      (match bs.lookup key with
        | some b => same a b
        | none => false)
      && sameFields as bs

end

/-- Are two values equal, where an undefined number by itself is not even equal to itself? -/
def equals (a b : Value) : Bool :=
  match a, b with
  | .number a, .number b => a.same b
  | a, b => a.same b

/-- Values are compared as what they stand for. -/
instance : BEq Value := ⟨same⟩

/-- Does a text hold another text, a list a text, or a record a key? -/
def holds (value : Value) (text : String) : Except Misuse Bool :=
  match value with
  | .string whole => .ok (Text.includes whole text)
  | other =>
      match other.items? with
      | some items => .ok (items.contains (.string text))
      | none => .error (.noContent other.kind)

/-- Every pair of items of two values; the second item changes first. The second value is looked at
only when the first one has items. -/
def pairsWith (firsts seconds : Value) : Except Misuse (List (Value × Value)) := do
  let rows ← (← firsts.each).mapM fun a => do return (← seconds.each).map fun b => (a, b)
  return rows.flatten

/-- The texts that all items are, if they are. -/
def texts? : List Value → Option (List String)
  | [] => some []
  | .string text :: rest => (texts? rest).map (text :: ·)
  | _ :: _ => none

/-- The numbers that all items are, if they are. -/
def allNumbers (items : List Value) : Bool := items.all fun item => item.number?.isSome

/-- Does a number come before another, or is it the same? -/
def numberOrder (a b : Value) : Bool :=
  match a.number?, b.number? with
  | some a, some b => !b.less a
  | _, _ => true

/-- Items in order: texts, or numbers. -/
def ordered (items : List Value) : Except Misuse (List Value) :=
  match texts? items, items with
  | some texts, _ => .ok ((texts.mergeSort fun a b => decide (a ≤ b)).map .string)
  | none, first :: second :: _ =>
      if allNumbers items then .ok (items.mergeSort numberOrder)
      else .error (.noOrder "<" second.kind first.kind)
  | none, few => .ok few

end Value

end AppSurvey
