import BlockExplorer.Calendar.Unix
import BlockExplorer.Text.Digit

/-!
Reading a point of time from ASCII text: a date and a time of day after ISO 8601 with an optional
offset, a date alone, or a number of seconds since 1970.
-/

namespace BlockExplorer.Timestamp

open CodePoint

def takeTwo : Text → Option (Nat × Text)
  | a :: b :: rest =>
      if isAsciiDigit a && isAsciiDigit b then some ((a - 0x30) * 10 + (b - 0x30), rest) else none
  | _ => none

def takeMark (mark : Nat) : Text → Option Text
  | c :: rest => if c = mark then some rest else none
  | [] => none

def takeDate (text : Text) : Option ((Nat × Nat × Nat) × Text) := do
  let (century, rest) ← takeTwo text
  let (year, rest) ← takeTwo rest
  let rest ← takeMark 0x2D rest
  let (month, rest) ← takeTwo rest
  let rest ← takeMark 0x2D rest
  let (day, rest) ← takeTwo rest
  let year := century * 100 + year
  if Calendar.isDate year month day then some ((year, month, day), rest) else none

/-- Digits of a fraction as microseconds. Digits behind the sixth are dropped. -/
def takeMicroseconds (text : Text) : Option (Nat × Text) :=
  let digits := text.takeWhile isAsciiDigit
  if digits.isEmpty then none
  else
    let kept := (digits.take 6).map (· - 0x30)
    some (Numeral.ofDigits kept * tenTo (6 - kept.length), text.drop digits.length)

def takeSeconds : Text → Option ((Nat × Nat) × Text)
  | 0x3A :: rest => do
      let (second, rest) ← takeTwo rest
      if 59 < second then none
      match rest with
      | c :: more =>
          if c = 0x2E ∨ c = 0x2C then
            let (microsecond, rest) ← takeMicroseconds more
            some ((second, microsecond), rest)
          else some ((second, 0), rest)
      | [] => some ((second, 0), [])
  | text => some ((0, 0), text)

def offsetSize (text : Text) : Option Int := do
  let (hours, rest) ← takeTwo text
  let (minutes, rest) ← takeTwo ((takeMark 0x3A rest).getD rest)
  if rest.isEmpty && minutes < 60 && hours < 24 then some (hours * 3600 + minutes * 60) else none

/-- The offset that ends a text. A minus may also be written as U+2212 in UTF-8. -/
def readOffset : Text → Option (Option Int)
  | [] => some none
  | [0x5A] => some (some 0)
  | [0x7A] => some (some 0)
  | 0x2B :: rest => (offsetSize rest).map some
  | 0x2D :: rest => (offsetSize rest).map fun size => some (-size)
  | 0xE2 :: 0x88 :: 0x92 :: rest => (offsetSize rest).map fun size => some (-size)
  | _ => none

def readIso? (text : Text) : Option Timestamp := do
  let ((year, month, day), rest) ← takeDate text
  let mark ← rest.head?
  if !(mark = 0x54 || mark = 0x74 || mark = 0x20 || mark = 0x5F) then none
  let (hour, rest) ← takeTwo (rest.drop 1)
  let rest ← takeMark 0x3A rest
  let (minute, rest) ← takeTwo rest
  if 23 < hour ∨ 59 < minute then none
  let ((second, microsecond), rest) ← takeSeconds rest
  let offset ← readOffset rest
  some { year, month, day, hour, minute, second, microsecond, offset }

def readDate? (text : Text) : Option Timestamp := do
  let ((year, month, day), rest) ← takeDate text
  if rest.isEmpty then
    some { year, month, day, hour := 0, minute := 0, second := 0, microsecond := 0, offset := none }
  else none

/-- A number of seconds or milliseconds in decimal. One with a point may end in a power of ten. -/
def readUnix? (text : Text) : Option Timestamp :=
  let (negative, body) := Numeral.takeSign text
  let digits := body.takeWhile isAsciiDigit
  match body.drop digits.length with
  | [] =>
      let value := Numeral.ofDigits (digits.map (· - 0x30))
      if digits.isEmpty || wordLimit ≤ value then none
      else ofUnix? (Numeral.signed negative value) 0
  | 0x2E :: fraction =>
      if fraction.contains Numeral.underscore then none
      else (Binary64.unsigned? Numeral.asciiValue? negative body).bind ofUnixFloat?
  | _ => none

def read? (text : Text) : Option Timestamp :=
  (readIso? text).orElse fun _ => (readUnix? text).orElse fun _ => readDate? text

end BlockExplorer.Timestamp
