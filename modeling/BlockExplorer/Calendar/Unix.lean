import BlockExplorer.Calendar.Timestamp
import BlockExplorer.Number.Binary64

/-!
Points of time given as seconds since the beginning of 1970 in universal time. Numbers beyond
twenty thousand million are milliseconds. Times before the year 1 or after 9999 are refused.
-/

namespace BlockExplorer.Timestamp

/-- Above this size a number counts milliseconds. -/
def secondsLimit : Int := 20000000000

def earliestSecond : Int := -62135596800

def latestSecond : Int := 253402300799

def ofSeconds? (seconds : Int) (microseconds : Nat) : Option Timestamp :=
  let seconds := seconds + microseconds / 1000000
  if seconds < earliestSecond ∨ latestSecond < seconds then none
  else
    let days := seconds.fdiv 86400
    let clock := (seconds - days * 86400).toNat
    let (year, month, day) := Calendar.dateOfDays days
    some
      { year, month, day
        hour := clock / 3600
        minute := clock / 60 % 60
        second := clock % 60
        microsecond := microseconds % 1000000
        offset := some 0 }

def isMilliseconds (number : Int) : Bool := secondsLimit < number.natAbs

def ofUnix? (number : Int) (microseconds : Nat) : Option Timestamp :=
  if isMilliseconds number then
    let seconds := number.fdiv 1000
    ofSeconds? seconds (((number - seconds * 1000) * 1000).toNat + microseconds)
  else ofSeconds? number microseconds

/-- The integer nearest to a number that is not negative, a half upward. -/
def roundHalfUp : Binary64 → Nat
  | .finite _ mantissa exponent =>
      let (n, d) := (mantissa * twoTo exponent.toNat, twoTo (-exponent).toNat)
      (2 * n + d) / (2 * d)
  | _ => 0

/-- The time that a floating-point number stands for: the integer below it as seconds or
milliseconds, and its distance from there in microseconds. -/
def ofUnixFloat? : Binary64 → Option Timestamp
  | .finite negative mantissa exponent =>
      let (n, d) := (mantissa * twoTo exponent.toNat, twoTo (-exponent).toNat)
      let below := (Binary64.floor negative mantissa exponent).1
      let distance := Binary64.ofRatio false (Numeral.signed negative n - below * d).toNat d
      let scale := if isMilliseconds below then 1000 else 1000000
      ofUnix? below (roundHalfUp (distance.times scale))
  | _ => none

end BlockExplorer.Timestamp
