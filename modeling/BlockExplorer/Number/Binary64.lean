import BlockExplorer.Number.Numeral

/-!
Binary floating-point numbers of 64 bits, held exactly. No arithmetic is done on them: they are read
from a decimal numeral, compared with zero, tested for a fraction and written. Reading rounds to the
nearest number, ties to the one with an even mantissa, in exact integer arithmetic.
-/

namespace BlockExplorer

/-- A finite number is `± mantissa · 2 ^ exponent`. Its mantissa is below `2 ^ 53` and the exponent
is the least that allows this, though never below `-1074`; zero has exponent `0`. -/
inductive Binary64 where
  | nan
  | infinite (negative : Bool)
  | finite (negative : Bool) (mantissa : Nat) (exponent : Int)
  deriving DecidableEq, Repr

namespace Binary64

def mantissaLimit : Nat := twoTo 53

def leastExponent : Int := -1074

def greatestExponent : Int := 971

def zero : Binary64 := .finite false 0 0

/-- `numerator / denominator` to the nearest integer, a half to the even neighbour. -/
def roundDiv (numerator denominator : Nat) : Nat :=
  let quotient := numerator / denominator
  let twice := 2 * (numerator % denominator)
  if twice < denominator then quotient
  else if denominator < twice then quotient + 1
  else if quotient % 2 = 0 then quotient else quotient + 1

def descale (numerator denominator : Nat) (exponent : Int) : Nat × Nat :=
  (numerator * twoTo (-exponent).toNat, denominator * twoTo exponent.toNat)

def ofRatio (negative : Bool) (numerator denominator : Nat) : Binary64 :=
  if numerator = 0 then .finite negative 0 0
  else
    let low : Int := (numerator.log2 : Int) - denominator.log2 - 53
    let (n, d) := descale numerator denominator low
    let exponent := max leastExponent (if mantissaLimit * d ≤ n then low + 1 else low)
    let (n, d) := descale numerator denominator exponent
    let mantissa := roundDiv n d
    let (mantissa, exponent) :=
      if mantissa = mantissaLimit then (mantissa / 2, exponent + 1) else (mantissa, exponent)
    if greatestExponent < exponent then .infinite negative
    else if mantissa = 0 then .finite negative 0 0
    else .finite negative mantissa exponent

def decimalLength (n : Nat) : Nat := (Nat.toDigits 10 n).length

/-- The number nearest to `± digits · 10 ^ exponent`. Far outside the range of the format the power
of ten is not computed. -/
def ofDecimal (negative : Bool) (digits : Nat) (exponent : Int) : Binary64 :=
  let magnitude : Int := decimalLength digits + exponent
  if digits = 0 then .finite negative 0 0
  else if 400 < magnitude then .infinite negative
  else if magnitude < -400 then .finite negative 0 0
  else ofRatio negative (digits * tenTo exponent.toNat) (tenTo (-exponent).toNat)

def isNegative : Binary64 → Bool
  | .nan => false
  | .infinite negative => negative
  | .finite negative mantissa _ => negative && mantissa ≠ 0

def isZero : Binary64 → Bool
  | .finite _ 0 _ => true
  | _ => false

/-- Whether the number is zero or below. Not a number is not. -/
def isNonpositive (x : Binary64) : Bool := x.isZero || x.isNegative

def isPositive : Binary64 → Bool
  | .nan => false
  | x => !x.isNonpositive

def floor (negative : Bool) (mantissa : Nat) (exponent : Int) : Int × Bool :=
  let (n, d) := (mantissa * twoTo exponent.toNat, twoTo (-exponent).toNat)
  let value : Int := Numeral.signed negative n
  (value.fdiv d, n % d = 0)

def times (x : Binary64) (factor : Nat) : Binary64 :=
  match x with
  | .finite negative mantissa exponent =>
      ofRatio negative (mantissa * factor * twoTo exponent.toNat) (twoTo (-exponent).toNat)
  | x => x

def integer? : Binary64 → Option Int
  | .finite negative mantissa exponent =>
      match floor negative mantissa exponent with
      | (value, true) => some value
      | _ => none
  | _ => none

def foldAscii (text : Text) : Text :=
  text.map fun c => if 0x41 ≤ c ∧ c ≤ 0x5A then c + 32 else c

def exponentPart? (value? : Nat → Option Nat) : Text → Option Int
  | [] => some 0
  | c :: rest =>
      if c = 0x65 ∨ c = 0x45 then
        let (negative, body) := Numeral.takeSign rest
        match Numeral.takeDigits value? body with
        | ([], _) => none
        | (digits, []) => some (Numeral.signed negative (Numeral.ofDigits digits))
        | _ => none
      else none

def unsigned? (value? : Nat → Option Nat) (negative : Bool) (text : Text) : Option Binary64 := do
  let (whole, rest) := Numeral.takeDigits value? text
  let (fraction, rest) :=
    match rest with
    | 0x2E :: rest => Numeral.takeDigits value? rest
    | rest => ([], rest)
  if whole.isEmpty && fraction.isEmpty then none
  let exponent ← exponentPart? value? rest
  some (ofDecimal negative (Numeral.ofDigits (whole ++ fraction)) (exponent - fraction.length))

/-- The number that a trimmed text spells in the digits of any script; infinity and not-a-number
have names. -/
def parse? (text : Text) : Option Binary64 :=
  let (negative, body) := Numeral.takeSign text
  let name := foldAscii body
  if name = Text.ofString "inf" ∨ name = Text.ofString "infinity" then some (.infinite negative)
  else if name = Text.ofString "nan" then some .nan
  else unsigned? CodePoint.decimalValue? negative body

end Binary64

end BlockExplorer
