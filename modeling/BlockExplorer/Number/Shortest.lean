import BlockExplorer.Number.Binary64

/-!
The shortest decimal numeral of a binary floating-point number: as few digits as read back as the
same number, and among those the nearest to it. All comparisons are exact.
-/

namespace BlockExplorer.Binary64

/-- A positive number, the two ends of the interval of reals that read back as it, and whether the
ends belong to it, all over one denominator. -/
structure Rounding where
  value : Nat
  low : Nat
  high : Nat
  denominator : Nat
  closed : Bool

/-- Below a power of two the neighbours stand twice as close, unless the exponent is the least. -/
def Rounding.of (mantissa : Nat) (exponent : Int) : Rounding :=
  let step := if mantissa = twoTo 52 ∧ leastExponent < exponent then 1 else 2
  let scale := twoTo (exponent - 2).toNat
  { value := 4 * mantissa * scale
    low := (4 * mantissa - step) * scale
    high := (4 * mantissa + 2) * scale
    denominator := twoTo (2 - exponent).toNat
    closed := mantissa % 2 = 0 }

/-- Whether `digits · 10 ^ exponent` reads back as the number. -/
def Rounding.contains (r : Rounding) (digits : Nat) (exponent : Int) : Bool :=
  let candidate := digits * tenTo exponent.toNat * r.denominator
  let scale := tenTo (-exponent).toNat
  if r.closed then r.low * scale ≤ candidate && candidate ≤ r.high * scale
  else r.low * scale < candidate && candidate < r.high * scale

/-- The greatest power of ten not above the number. -/
def Rounding.magnitude (r : Rounding) : Int :=
  let guess : Int := (decimalLength r.value : Int) - decimalLength r.denominator
  if r.denominator * tenTo guess.toNat ≤ r.value * tenTo (-guess).toNat then guess else guess - 1

/-- The neighbour of the number on the grid of multiples of `10 ^ exponent` that reads back; of two
the nearer, of two equally near the even one. -/
def Rounding.onGrid? (r : Rounding) (exponent : Int) : Option Nat :=
  let numerator := r.value * tenTo (-exponent).toNat
  let divisor := r.denominator * tenTo exponent.toNat
  let below := numerator / divisor
  let nearest := roundDiv numerator divisor
  let other := if nearest = below then below + 1 else below
  if r.contains nearest exponent then some nearest
  else if r.contains other exponent then some other
  else none

def Rounding.search (r : Rounding) (magnitude : Int) : (fuel digits : Nat) → Nat × Int
  | 0, digits => (r.value / r.denominator, magnitude - digits)
  | fuel + 1, digits =>
      let exponent := magnitude - digits
      match r.onGrid? exponent with
      | some found => (found, exponent)
      | none => r.search magnitude fuel (digits + 1)

/-- Digits and power of ten of the shortest numeral. Seventeen digits always suffice. -/
def shortest (mantissa : Nat) (exponent : Int) : Nat × Int :=
  let r := Rounding.of mantissa exponent
  r.search r.magnitude 17 0

def dropZeros : (fuel : Nat) → Nat → Int → Nat × Int
  | 0, digits, exponent => (digits, exponent)
  | fuel + 1, digits, exponent =>
      if digits % 10 = 0 ∧ digits ≠ 0 then dropZeros fuel (digits / 10) (exponent + 1)
      else (digits, exponent)

def zeros (n : Nat) : String := String.ofList (List.replicate n '0')

/-- Digits with the point in its place, or with a power of ten of two digits at least. Numbers from
`10 ^ -4` up to `10 ^ 16` are written in the first way, whole ones with `.0`. -/
def layout (digits : Nat) (exponent : Int) : String :=
  let text := toString digits
  let count := text.length
  let place : Int := exponent + count
  if -4 < place ∧ place ≤ 16 then
    if place ≤ 0 then "0." ++ zeros (-place).toNat ++ text
    else if count ≤ place.toNat then text ++ zeros (place.toNat - count) ++ ".0"
    else
      String.ofList (text.toList.take place.toNat) ++ "." ++
        String.ofList (text.toList.drop place.toNat)
  else
    let power := place - 1
    let size := toString power.natAbs
    let fraction := if count = 1 then "" else "." ++ String.ofList (text.toList.drop 1)
    String.ofList (text.toList.take 1) ++ fraction ++ "e" ++ (if power < 0 then "-" else "+") ++
      (if size.length < 2 then "0" ++ size else size)

def sign (negative : Bool) : String := if negative then "-" else ""

def toText : Binary64 → String
  | .nan => "nan"
  | .infinite negative => sign negative ++ "inf"
  | .finite negative 0 _ => sign negative ++ "0.0"
  | .finite negative mantissa exponent =>
      let (digits, power) := shortest mantissa exponent
      let (digits, power) := dropZeros 17 digits power
      sign negative ++ layout digits power

end BlockExplorer.Binary64
