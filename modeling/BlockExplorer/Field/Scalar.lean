import BlockExplorer.Calendar.Reader
import BlockExplorer.Encoding.Utf
import BlockExplorer.Field.Check

/-!
Checks of single values. They are lenient: an integer may be written as text, bytes as hexadecimal
text, text as bytes.
-/

namespace BlockExplorer

/-- A time as the store keeps it: a point of time, or some text that is passed on as it is. -/
inductive BlockTime where
  | instant (time : Timestamp)
  | written (text : Text)
  deriving DecidableEq, Repr

namespace Field

/-- Whether an integer lies strictly between the two ends of the range of 64-bit integers. -/
def fitsWord (n : Int) : Bool := -wordLimit < n && n < wordLimit

def integerOfText (text : Text) : Checked Int :=
  if Text.isUnicode text then
    match Numeral.fieldInteger text with
    | .ok value => .valid value
    | .error .malformed => .refuse .malformedInteger
    | .error .tooLong => .refuse .integerTooLarge
  else .refuse .malformedText

def integerOfFloat : Binary64 → Checked Int
  | .finite negative mantissa exponent =>
      match Binary64.floor negative mantissa exponent with
      | (value, true) => if fitsWord value then .valid value else .refuse .integerTooLarge
      | (_, false) => .refuse .fractionalNumber
  | _ => .refuse .notFinite

def integer : Value → Checked Int
  | .bool value => .valid (if value then 1 else 0)
  | .int value => .valid value
  | .float value => integerOfFloat value
  | .text value => integerOfText value
  | .bytes value =>
      match Utf.decodeUtf8 value with
      | .ok text => integerOfText text
      | .error _ => .refuse .malformedInteger
  | _ => .refuse .notInteger

def natural (value : Value) : Checked Nat :=
  (integer value).bind fun n => if n < 0 then .refuse .belowMinimum else .valid n.toNat

def text : Value → Checked Text
  | .text value => .valid value
  | .bytes value =>
      match Utf.decodeUtf8 value with
      | .ok text => .valid text
      | .error _ => .refuse .malformedText
  | _ => .refuse .notText

def bytes : Value → Checked Bytes
  | .text value =>
      match Hex.decode? value with
      | some bytes => .valid bytes
      | none => .refuse .malformedHex
  | .bytes value => .valid value
  | _ => .refuse .notBytes

/-- An integer above which no floating-point number is near. -/
def floatLimit : Nat := twoTo 1024 - twoTo 970

def timeOfNumber : Value → Except Problem Timestamp
  | .int value =>
      if value < -wordLimit ∨ wordLimit ≤ value then
        .error (if floatLimit ≤ value.natAbs then .notTime else .timeOutOfRange)
      else (Timestamp.ofUnix? value 0).elim (.error .timeOutOfRange) .ok
  | .float value => (Timestamp.ofUnixFloat? value).elim (.error .timeOutOfRange) .ok
  | _ => .error .notTime

def neither (asTime asText : Problem) : Checked BlockTime :=
  .invalid [⟨[.field "datetime"], asTime⟩, ⟨[.field "str"], asText⟩]

/-- A point of time, or text. Text is never read as a point of time, but a byte string is. -/
def time : Value → Checked BlockTime
  | .time value => .valid (.instant value)
  | .text value => .valid (.written value)
  | .bytes value =>
      match Timestamp.read? (Utf.values value) with
      | some time => .valid (.instant time)
      | none =>
          match Utf.decodeUtf8 value with
          | .ok text => .valid (.written text)
          | .error _ => neither .malformedDate .malformedText
  | value =>
      match timeOfNumber value with
      | .ok time => .valid (.instant time)
      | .error problem => neither problem .notText

def ofName {α : Type} (name : α → String) (all : List α) (found : Text) : Checked α :=
  match all.find? fun item => Text.ofString (name item) = found with
  | some item => .valid item
  | none => .refuse .unknownName

def oneOf {α : Type} (name : α → String) (all : List α) : Value → Checked α
  | .text value => if Text.isUnicode value then ofName name all value else .refuse .malformedText
  | .bytes value =>
      match Utf.decodeUtf8 value with
      | .ok text => ofName name all text
      | .error _ => .refuse .unknownName
  | _ => .refuse .unknownName

end Field

end BlockExplorer
