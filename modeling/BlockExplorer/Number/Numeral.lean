import BlockExplorer.Number.Power
import BlockExplorer.Text.Blank
import BlockExplorer.Text.Digit

/-!
Decimal numerals as people write them: digits with single underscores between them. Settings accept
the digits of every script, stored fields only those of ASCII.
-/

namespace BlockExplorer.Numeral

open CodePoint

abbrev underscore : Nat := 0x5F

abbrev point : Nat := 0x2E

/-- The most digits of an integer that is read from a text or written as one: the limit that such a
conversion has unless it is given another one. -/
def maxDigits : Nat := 4300

/-- Whether an integer can be written. Its sign does not count as a digit. -/
def isWritable (n : Int) : Bool := (Nat.toDigits 10 n.natAbs).length ≤ maxDigits

abbrev Writable := { n : Int // isWritable n }

def Writable.ofInt? (n : Int) : Option Writable :=
  if writable : isWritable n then some ⟨n, writable⟩ else none

theorem Writable.of_int?_val (n : Writable) : ofInt? n.val = some n := dif_pos n.property

/-- Every integer can be written or is too long. -/
theorem Writable.cases (n : Int) :
    (∃ writable : Writable, writable.val = n) ∨ isWritable n = false := by
  cases writable : isWritable n with
  | true => exact .inl ⟨⟨n, writable⟩, rfl⟩
  | false => exact .inr rfl

theorem Writable.of_int?_eq_none_iff {n : Int} : ofInt? n = none ↔ isWritable n = false := by
  rw [ofInt?]
  split <;> simp_all

def asciiValue? (c : Nat) : Option Nat := if isAsciiDigit c then some (c - 0x30) else none

/-- The digits that go on after a digit, and what stands behind them. An underscore belongs to them
only when a digit follows it. -/
def takeMore (value? : Nat → Option Nat) : Text → List Nat × Text
  | [] => ([], [])
  | [c] =>
      match value? c with
      | some digit => ([digit], [])
      | none => ([], [c])
  | c :: d :: rest =>
      match value? c with
      | some digit =>
          let (digits, suffix) := takeMore value? (d :: rest)
          (digit :: digits, suffix)
      | none =>
          if c = underscore then
            match value? d with
            | some digit =>
                let (digits, suffix) := takeMore value? rest
                (digit :: digits, suffix)
            | none => ([], c :: d :: rest)
          else ([], c :: d :: rest)

def takeDigits (value? : Nat → Option Nat) : Text → List Nat × Text
  | [] => ([], [])
  | c :: rest =>
      match value? c with
      | some digit =>
          let (digits, suffix) := takeMore value? rest
          (digit :: digits, suffix)
      | none => ([], c :: rest)

def ofDigits (digits : List Nat) : Nat := digits.foldl (fun value digit => value * 10 + digit) 0

def takeSign : Text → Bool × Text
  | 0x2B :: rest => (false, rest)
  | 0x2D :: rest => (true, rest)
  | text => (false, text)

def signed (negative : Bool) (magnitude : Nat) : Int :=
  if negative then -(magnitude : Int) else magnitude

def integer? (text : Text) : Option Int :=
  let (negative, body) := takeSign text
  match takeDigits decimalValue? body with
  | ([], _) => none
  | (digits, []) =>
      if digits.length ≤ maxDigits then some (signed negative (ofDigits digits)) else none
  | _ => none

inductive FieldFault where
  | malformed
  | tooLong
  deriving DecidableEq, Repr

abbrev minus : Nat := 0x2D

def takeMinus : Text → Bool × Text
  | 0x2D :: rest => (true, rest)
  | text => (false, text)

/-- An integer in its plain form: a minus or nothing, then ASCII digits without a zero before other
digits. Too many digits are reported whatever stands behind them. -/
def plainInteger (text : Text) : Except FieldFault Int :=
  let (negative, body) := takeMinus text
  let digits := body.takeWhile isAsciiDigit
  let rest := body.drop digits.length
  let leadingZero := digits.head? = some 0x30 && 1 < digits.length
  if digits.isEmpty || leadingZero then .error .malformed
  else if maxDigits < digits.length then .error .tooLong
  else if rest.isEmpty then .ok (signed negative (ofDigits (digits.map (· - 0x30))))
  else .error .malformed

/-- What is left behind leading zeros, among which underscores may stand. A digit or a minus ends
them; before a point, and at the end, the `last` of them is kept. -/
def afterZeros (last : Nat) : Text → Option Text
  | [] => some [last]
  | c :: rest =>
      if c = 0x30 ∨ c = underscore then afterZeros c rest
      else if isAsciiDigit c ∨ c = minus then some (c :: rest)
      else if c = point then some (last :: c :: rest)
      else none

def dropZeros : Text → Option Text
  | [] => none
  | c :: rest =>
      if c = 0x30 then afterZeros c rest else if isAsciiDigit c then some (c :: rest) else none

def dropZeroFraction (text : Text) : Text :=
  let whole := text.takeWhile (· ≠ point)
  let zeros := text.drop (whole.length + 1)
  if !zeros.isEmpty && zeros.all (· = 0x30) then whole else text

/-- A text without its underscores, each of which stands alone between other characters. -/
def dropUnderscores (text : Text) : Option Text :=
  if (Text.split underscore text).contains [] then none else some (text.filter (· ≠ underscore))

/-- The plain form of the text of an integer: without white space around it, a plus, leading zeros,
a fraction of zeros and underscores. -/
def tidy (text : Text) : Option Text := do
  let trimmed := Text.trim isWhiteSpace text
  let (negative, body) :=
    match trimmed with
    | 0x2B :: rest => (false, rest)
    | _ => takeMinus trimmed
  let body ← dropZeros body
  let body ← dropUnderscores (dropZeroFraction body)
  return if negative then minus :: body else body

/-- The integer that the text of a stored field spells in ASCII digits. Only plain digits can be too
many; a text that is too long in its tidy form counts as malformed. -/
def fieldInteger (text : Text) : Except FieldFault Int :=
  match plainInteger text with
  | .error .malformed =>
      match tidy text with
      | none => .error .malformed
      | some tidied => (plainInteger tidied).mapError fun _ => .malformed
  | result => result

end BlockExplorer.Numeral
