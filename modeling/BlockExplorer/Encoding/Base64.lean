import BlockExplorer.Encoding.Hex

/-!
Base64 with the standard alphabet. The reader is strict: every character belongs to the alphabet or
is padding, padding follows two or three characters of a group, and nothing follows it. Padding
signs right after a complete group are let through. Main statement: what is written is read back.
-/

namespace BlockExplorer.Base64

inductive Fault where
  | leadingPadding
  | foreignCharacter
  | excessData
  | interruptedPadding
  | loneCharacter (count : Nat)
  | missingPadding
  deriving DecidableEq, Repr

def Fault.message : Fault → String
  | .leadingPadding => "Leading padding not allowed"
  | .foreignCharacter => "Only base64 data is allowed"
  | .excessData => "Excess data after padding"
  | .interruptedPadding => "Discontinuous padding not allowed"
  | .loneCharacter count =>
      s!"Invalid base64-encoded string: number of data characters ({count}) " ++
        "cannot be 1 more than a multiple of 4"
  | .missingPadding => "Incorrect padding"

abbrev padding : Nat := 0x3D

def sextet? (c : Nat) : Option Nat :=
  if 0x41 ≤ c ∧ c ≤ 0x5A then some (c - 0x41)
  else if 0x61 ≤ c ∧ c ≤ 0x7A then some (c - 0x61 + 26)
  else if 0x30 ≤ c ∧ c ≤ 0x39 then some (c - 0x30 + 52)
  else if c = 0x2B then some 62
  else if c = 0x2F then some 63
  else none

def digit (n : Nat) : Nat :=
  if n < 26 then 0x41 + n
  else if n < 52 then 0x61 + (n - 26)
  else if n < 62 then 0x30 + (n - 52)
  else if n = 62 then 0x2B
  else 0x2F

def groupBytes : List Nat → Bytes
  | [a, b] => [UInt8.ofNat (a * 4 + b / 16)]
  | [a, b, c] => [UInt8.ofNat (a * 4 + b / 16), UInt8.ofNat (b % 16 * 16 + c / 4)]
  | [a, b, c, d] =>
      [UInt8.ofNat (a * 4 + b / 16), UInt8.ofNat (b % 16 * 16 + c / 4),
        UInt8.ofNat (c % 4 * 64 + d)]
  | _ => []

/-- Reads on after `groups` complete groups, with `pending` sextets of the next group read. `pads`
counts the padding signs that complete this group and `padded` tells whether there has been any
padding sign at all. -/
def decodeFrom (groups : Nat) (pending : List Nat) (pads : Nat) (padded : Bool) :
    Text → Except Fault Bytes
  | [] =>
      match pending with
      | [] => .ok []
      | [_] => .error (.loneCharacter (groups * 4 + 1))
      | _ => .error .missingPadding
  | c :: rest =>
      if c = padding then
        if pending.length < 2 then decodeFrom groups pending pads true rest
        else if pending.length + pads + 1 < 4 then decodeFrom groups pending (pads + 1) true rest
        else if rest.isEmpty then .ok (groupBytes pending)
        else .error .excessData
      else match sextet? c with
        | none => .error .foreignCharacter
        | some value =>
            if padded then .error .interruptedPadding
            else if pending.length = 3 then do
              let bytes ← decodeFrom (groups + 1) [] 0 false rest
              .ok (groupBytes (pending ++ [value]) ++ bytes)
            else decodeFrom groups (pending ++ [value]) pads padded rest

def decode (text : Text) : Except Fault Bytes :=
  if text.head? = some padding then .error .leadingPadding else decodeFrom 0 [] 0 false text

def encode : Bytes → Text
  | [] => []
  | [a] => [digit (a.toNat / 4), digit (a.toNat % 4 * 16), padding, padding]
  | [a, b] =>
      [digit (a.toNat / 4), digit (a.toNat % 4 * 16 + b.toNat / 16), digit (b.toNat % 16 * 4),
        padding]
  | a :: b :: c :: rest =>
      digit (a.toNat / 4) :: digit (a.toNat % 4 * 16 + b.toNat / 16) ::
        digit (b.toNat % 16 * 4 + c.toNat / 64) :: digit (c.toNat % 64) :: encode rest

theorem sextet?_digit {n : Nat} (small : n < 64) :
    sextet? (digit n) = some n ∧ digit n ≠ padding ∧ digit n < 0x80 := by
  have all : ∀ n ∈ List.range 64,
      sextet? (digit n) = some n ∧ digit n ≠ padding ∧ digit n < 0x80 := by decide
  exact all n (List.mem_range.mpr small)

theorem decode_from_digit {groups pads n : Nat} {pending : List Nat} {rest : Text} (small : n < 64)
    (room : pending.length < 3) :
    decodeFrom groups pending pads false (digit n :: rest) =
      decodeFrom groups (pending ++ [n]) pads false rest := by
  obtain ⟨value, other, -⟩ := sextet?_digit small
  simp only [decodeFrom, value, if_neg other, Bool.false_eq_true, if_false,
    if_neg (show ¬ pending.length = 3 by omega)]

theorem decode_from_last_digit {groups pads n : Nat} {pending : List Nat} {rest : Text}
    (small : n < 64) (full : pending.length = 3) :
    decodeFrom groups pending pads false (digit n :: rest) =
      (decodeFrom (groups + 1) [] 0 false rest).map (groupBytes (pending ++ [n]) ++ ·) := by
  obtain ⟨value, other, -⟩ := sextet?_digit small
  simp only [decodeFrom, value, if_neg other, Bool.false_eq_true, if_false, if_pos full]
  rfl

/-- The first, second and third byte of a group out of its four sextets. -/
theorem first_byte (a b : UInt8) :
    UInt8.ofNat (a.toNat / 4 * 4 + (a.toNat % 4 * 16 + b.toNat / 16) / 16) = a := by
  have bound : b.toNat < 256 := b.toNat_lt_size
  rw [show a.toNat / 4 * 4 + (a.toNat % 4 * 16 + b.toNat / 16) / 16 = a.toNat by omega,
    UInt8.ofNat_toNat]

theorem second_byte (a b c : UInt8) :
    UInt8.ofNat ((a.toNat % 4 * 16 + b.toNat / 16) % 16 * 16
      + (b.toNat % 16 * 4 + c.toNat / 64) / 4) = b := by
  have bound : b.toNat < 256 := b.toNat_lt_size
  have next : c.toNat < 256 := c.toNat_lt_size
  rw [show (a.toNat % 4 * 16 + b.toNat / 16) % 16 * 16 + (b.toNat % 16 * 4 + c.toNat / 64) / 4
    = b.toNat by omega, UInt8.ofNat_toNat]

theorem third_byte (b c : UInt8) :
    UInt8.ofNat ((b.toNat % 16 * 4 + c.toNat / 64) % 4 * 64 + c.toNat % 64) = c := by
  have bound : c.toNat < 256 := c.toNat_lt_size
  rw [show (b.toNat % 16 * 4 + c.toNat / 64) % 4 * 64 + c.toNat % 64 = c.toNat by omega,
    UInt8.ofNat_toNat]

theorem decode_from_encode (groups : Nat) (bytes : Bytes) :
    decodeFrom groups [] 0 false (encode bytes) = .ok bytes := by
  fun_induction encode bytes generalizing groups with
  | case1 => rfl
  | case2 a =>
      have bound : a.toNat < 256 := a.toNat_lt_size
      have first := first_byte a 0
      rw [decode_from_digit (by omega) (by simp), decode_from_digit (by omega) (by simp)]
      simp only [UInt8.toNat_zero, Nat.zero_div, Nat.add_zero] at first
      simp only [List.nil_append, List.cons_append, decodeFrom, if_true, List.length_cons,
        List.length_nil, groupBytes, first]
      rfl
  | case3 a b =>
      have bound : a.toNat < 256 := a.toNat_lt_size
      have next : b.toNat < 256 := b.toNat_lt_size
      have second := second_byte a b 0
      rw [decode_from_digit (by omega) (by simp), decode_from_digit (by omega) (by simp),
        decode_from_digit (by omega) (by simp)]
      simp only [UInt8.toNat_zero, Nat.zero_div, Nat.add_zero] at second
      simp only [List.nil_append, List.cons_append, decodeFrom, if_true, List.length_cons,
        List.length_nil, groupBytes, first_byte, second]
      rfl
  | case4 a b c rest induction =>
      have bound : a.toNat < 256 := a.toNat_lt_size
      have next : b.toNat < 256 := b.toNat_lt_size
      have last : c.toNat < 256 := c.toNat_lt_size
      rw [decode_from_digit (by omega) (by simp), decode_from_digit (by omega) (by simp),
        decode_from_digit (by omega) (by simp), decode_from_last_digit (by omega) (by simp),
        induction]
      simp only [Except.map, List.nil_append, List.cons_append, groupBytes, first_byte, second_byte,
        third_byte]

theorem head?_encode_ne (bytes : Bytes) : (encode bytes).head? ≠ some padding := by
  have leading (a : UInt8) : digit (a.toNat / 4) ≠ padding := by
    have bound : a.toNat < 256 := a.toNat_lt_size
    exact (sextet?_digit (by omega)).2.1
  fun_cases encode bytes with
  | case1 => simp
  | case2 a => simpa using leading a
  | case3 a b => simpa using leading a
  | case4 a b c rest => simpa using leading a

theorem decode_encode (bytes : Bytes) : decode (encode bytes) = .ok bytes := by
  rw [decode, if_neg (head?_encode_ne bytes), decode_from_encode]

/-- Base64 text consists of digits and padding. -/
theorem mem_encode {bytes : Bytes} {c : Nat} (member : c ∈ encode bytes) :
    c = padding ∨ ∃ n, n < 64 ∧ c = digit n := by
  fun_induction encode bytes with
  | case1 => cases member
  | case2 a =>
      have bound : a.toNat < 256 := a.toNat_lt_size
      simp only [List.mem_cons, List.not_mem_nil, or_false] at member
      rcases member with rfl | rfl | rfl | rfl
      · exact .inr ⟨_, by omega, rfl⟩
      · exact .inr ⟨_, by omega, rfl⟩
      all_goals exact .inl rfl
  | case3 a b =>
      have bound : a.toNat < 256 := a.toNat_lt_size
      have next : b.toNat < 256 := b.toNat_lt_size
      simp only [List.mem_cons, List.not_mem_nil, or_false] at member
      rcases member with rfl | rfl | rfl | rfl
      · exact .inr ⟨_, by omega, rfl⟩
      · exact .inr ⟨_, by omega, rfl⟩
      · exact .inr ⟨_, by omega, rfl⟩
      · exact .inl rfl
  | case4 a b c rest induction =>
      have bound : a.toNat < 256 := a.toNat_lt_size
      have next : b.toNat < 256 := b.toNat_lt_size
      have last : c.toNat < 256 := c.toNat_lt_size
      simp only [List.mem_cons] at member
      rcases member with rfl | rfl | rfl | rfl | later
      · exact .inr ⟨_, by omega, rfl⟩
      · exact .inr ⟨_, by omega, rfl⟩
      · exact .inr ⟨_, by omega, rfl⟩
      · exact .inr ⟨_, by omega, rfl⟩
      · exact induction later

theorem sextet?_of_high {c : Nat} (high : 0x80 ≤ c) : sextet? c = none := by
  rw [sextet?, if_neg (by omega), if_neg (by omega), if_neg (by omega), if_neg (by omega),
    if_neg (by omega)]

/-- Whatever is read is ASCII text. -/
theorem ascii_of_decode_from {groups pads : Nat} {pending : List Nat} {padded : Bool} {text : Text}
    {bytes : Bytes} (read : decodeFrom groups pending pads padded text = .ok bytes) :
    ∀ c ∈ text, c < 0x80 := by
  induction text generalizing groups pending pads padded bytes with
  | nil => simp
  | cons first rest induction =>
      have behind : first < 0x80 → (∀ c ∈ rest, c < 0x80) → ∀ c ∈ first :: rest, c < 0x80 :=
        fun low later => List.forall_mem_cons.mpr ⟨low, later⟩
      rw [decodeFrom.eq_def] at read
      simp only at read
      split at read
      · next pad =>
          have low : first < 0x80 := by
            rw [pad]
            decide
          split at read
          · exact behind low (induction read)
          split at read
          · exact behind low (induction read)
          split at read
          · next last => exact behind low (by simp [List.isEmpty_iff.mp last])
          · cases read
      · split at read
        · cases read
        · next value known =>
            have low : first < 0x80 := by
              refine Nat.lt_of_not_le fun high => ?_
              rw [sextet?_of_high high] at known
              cases known
            split at read
            · cases read
            split at read
            · cases later : decodeFrom (groups + 1) [] 0 false rest with
              | error fault =>
                  rw [later] at read
                  cases read
              | ok others => exact behind low (induction later)
            · exact behind low (induction read)

theorem ascii_of_decode {text : Text} {bytes : Bytes} (read : decode text = .ok bytes) :
    ∀ c ∈ text, c < 0x80 := by
  rw [decode] at read
  split at read
  · cases read
  · exact ascii_of_decode_from read

end BlockExplorer.Base64
