import BlockExplorer.Text.Blank
import BlockExplorer.Text.Quoted

/-!
Hexadecimal. A byte is written as two digits; reading takes digits of either case and allows ASCII
blanks before, between and after the pairs, never inside one. Main statements: what is written is
read back, in lower and in upper case.
-/

namespace BlockExplorer

abbrev Bytes := List UInt8

namespace Hex

open CodePoint

def digitValue? (c : Nat) : Option Nat :=
  if 0x30 ≤ c ∧ c ≤ 0x39 then some (c - 0x30)
  else if 0x61 ≤ c ∧ c ≤ 0x66 then some (c - 0x57)
  else if 0x41 ≤ c ∧ c ≤ 0x46 then some (c - 0x37)
  else none

def upperDigit (n : Nat) : Nat := if n < 10 then 0x30 + n else 0x37 + n

/-- Two digits per byte, the high half first. -/
def encodeWith (digit : Nat → Nat) : Bytes → Text
  | [] => []
  | byte :: rest => digit (byte.toNat / 16) :: digit (byte.toNat % 16) :: encodeWith digit rest

def lower (bytes : Bytes) : Text := encodeWith hexDigit bytes

def upper (bytes : Bytes) : Text := encodeWith upperDigit bytes

def pair? (high low : Nat) : Option UInt8 := do
  let high ← digitValue? high
  let low ← digitValue? low
  some (UInt8.ofNat (high * 16 + low))

def decode? : Text → Option Bytes
  | [] => some []
  | [c] => if isAsciiBlank c then some [] else none
  | c :: d :: rest =>
      if isAsciiBlank c then decode? (d :: rest)
      else do
        let byte ← pair? c d
        let bytes ← decode? rest
        some (byte :: bytes)

def lowerString (bytes : Bytes) : String := Text.toString (lower bytes)

/-- A digit writer is faithful when its digits are read back and none of them is a blank. -/
def Faithful (digit : Nat → Nat) : Prop :=
  ∀ n, n < 16 → digitValue? (digit n) = some n ∧ isAsciiBlank (digit n) = false ∧ digit n < 0x80

theorem hex_digit_faithful : Faithful hexDigit := by
  have all : ∀ n ∈ List.range 16, digitValue? (hexDigit n) = some n ∧
      isAsciiBlank (hexDigit n) = false ∧ hexDigit n < 0x80 := by decide
  exact fun n small => all n (List.mem_range.mpr small)

theorem upper_digit_faithful : Faithful upperDigit := by
  have all : ∀ n ∈ List.range 16, digitValue? (upperDigit n) = some n ∧
      isAsciiBlank (upperDigit n) = false ∧ upperDigit n < 0x80 := by decide
  exact fun n small => all n (List.mem_range.mpr small)

theorem pair?_of_faithful {digit : Nat → Nat} (faithful : Faithful digit) (byte : UInt8) :
    pair? (digit (byte.toNat / 16)) (digit (byte.toNat % 16)) = some byte := by
  have bound : byte.toNat < 256 := byte.toNat_lt_size
  simp only [pair?, (faithful (byte.toNat / 16) (by omega)).1,
    (faithful (byte.toNat % 16) (by omega)).1, Option.bind_eq_bind, Option.bind_some,
    show byte.toNat / 16 * 16 + byte.toNat % 16 = byte.toNat by omega, UInt8.ofNat_toNat]

theorem decode?_encode_with {digit : Nat → Nat} (faithful : Faithful digit) (bytes : Bytes) :
    decode? (encodeWith digit bytes) = some bytes := by
  induction bytes with
  | nil => rfl
  | cons byte rest induction =>
      have bound : byte.toNat < 256 := byte.toNat_lt_size
      have solid := (faithful (byte.toNat / 16) (by omega)).2.1
      simp only [encodeWith, decode?, solid, pair?_of_faithful faithful, induction]
      rfl

theorem decode?_lower (bytes : Bytes) : decode? (lower bytes) = some bytes :=
  decode?_encode_with hex_digit_faithful bytes

theorem decode?_upper (bytes : Bytes) : decode? (upper bytes) = some bytes :=
  decode?_encode_with upper_digit_faithful bytes

end Hex

end BlockExplorer
