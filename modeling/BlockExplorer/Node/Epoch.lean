import BlockExplorer.Encoding.Hex
import BlockExplorer.Number.Power

/-!
An optional epoch in bytes: a zero byte for none, or a one and the epoch as eight bytes, the lowest
first. Main statements: what is written is read back (`decode?_encode`), and only what is written is
read (`encode_of_decode?`).
-/

namespace BlockExplorer.Epoch

/-- The lowest `width` bytes of a number, the lowest first. -/
def littleEndian : (width : Nat) → Nat → Bytes
  | 0, _ => []
  | width + 1, n => UInt8.ofNat n :: littleEndian width (n / 256)

def ofLittleEndian : Bytes → Nat
  | [] => 0
  | byte :: rest => byte.toNat + 256 * ofLittleEndian rest

def limit : Nat := power 256 8

def encode : Option Nat → Bytes
  | none => [0]
  | some epoch => 1 :: littleEndian 8 epoch

def decode? : Bytes → Option (Option Nat)
  | [0] => some none
  | 1 :: rest => if rest.length = 8 then some (some (ofLittleEndian rest)) else none
  | _ => none

theorem length_little_endian (width n : Nat) : (littleEndian width n).length = width := by
  induction width generalizing n with
  | zero => rfl
  | succ width induction => simp [littleEndian, induction]

theorem of_little_endian_lt (bytes : Bytes) : ofLittleEndian bytes < power 256 bytes.length := by
  induction bytes with
  | nil => decide
  | cons byte rest induction =>
      have bound : byte.toNat < 256 := byte.toNat_lt_size
      simp only [ofLittleEndian, List.length_cons, power_succ]
      omega

theorem of_little_endian_little_endian {width n : Nat} (small : n < power 256 width) :
    ofLittleEndian (littleEndian width n) = n := by
  induction width generalizing n with
  | zero =>
      have none : n = 0 := by simpa using small
      subst none
      rfl
  | succ width induction =>
      have next : n / 256 < power 256 width := by
        rw [power_succ] at small
        exact (Nat.div_lt_iff_lt_mul (by decide)).mpr small
      simp only [littleEndian, ofLittleEndian, induction next, UInt8.toNat_ofNat']
      omega

theorem little_endian_of_little_endian (bytes : Bytes) :
    littleEndian bytes.length (ofLittleEndian bytes) = bytes := by
  induction bytes with
  | nil => rfl
  | cons byte rest induction =>
      have bound : byte.toNat < 256 := byte.toNat_lt_size
      have quotient : (byte.toNat + 256 * ofLittleEndian rest) / 256 = ofLittleEndian rest := by
        omega
      have remainder : UInt8.ofNat (byte.toNat + 256 * ofLittleEndian rest) = byte := by
        apply UInt8.toNat_inj.mp
        rw [UInt8.toNat_ofNat']
        omega
      rw [ofLittleEndian, List.length_cons, littleEndian, quotient, remainder, induction]

theorem decode?_encode {epoch : Option Nat} (small : ∀ e ∈ epoch, e < limit) :
    decode? (encode epoch) = some epoch := by
  cases epoch with
  | none => rfl
  | some epoch =>
      have bound : epoch < power 256 8 := small epoch rfl
      have size := length_little_endian 8 epoch
      simp only [encode, decode?, size, if_true, of_little_endian_little_endian bound]

theorem encode_of_decode? {bytes : Bytes} {epoch : Option Nat} (read : decode? bytes = some epoch) :
    bytes = encode epoch := by
  rw [decode?.eq_def] at read
  split at read
  · rw [← Option.some.inj read, encode]
  · next rest =>
      split at read
      · next size =>
          have whole := little_endian_of_little_endian rest
          rw [size] at whole
          rw [← Option.some.inj read, encode, whole]
      · contradiction
  · contradiction

/-- Whatever is neither a lone zero nor a one in front of eight bytes is no epoch. -/
theorem decode?_eq_none_iff {bytes : Bytes} :
    decode? bytes = none ↔ bytes ≠ [0] ∧ (bytes.length ≠ 9 ∨ bytes.head? ≠ some 1) := by
  rw [decode?.eq_def]
  split
  · simp
  · next rest => simp
  · next notNone unmarked =>
      refine iff_of_true rfl ⟨fun same => notNone same, .inr fun marked => ?_⟩
      obtain ⟨rest, rfl⟩ := List.head?_eq_some_iff.mp marked
      exact unmarked rest rfl

end BlockExplorer.Epoch
