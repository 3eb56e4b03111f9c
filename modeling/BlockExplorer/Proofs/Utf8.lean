import Mathlib.Tactic.SplitIfs
import BlockExplorer.Encoding.Utf
import BlockExplorer.Proofs.Collecting

/-!
Which bytes are UTF-8. The strict reader accepts exactly the bytes that spell a text of Unicode
characters, and gives that text (`decode_utf8_eq_ok_iff`).
-/

namespace BlockExplorer.Utf

structure IsScalar (c : Nat) : Prop where
  bound : c < 0x110000
  noSurrogate : ¬(0xD800 ≤ c ∧ c ≤ 0xDFFF)

/-- The bytes are the UTF-8 of the text, in which every code point is a character. -/
structure Spells (bytes : Bytes) (text : Text) : Prop where
  encoded : bytes = encodeUtf8 text
  scalar : ∀ c ∈ text, IsScalar c

section Widths

variable {c : Nat}

theorem encode_point_one (upper : c < 0x80) : encodePoint c = [c] := if_pos upper

theorem encode_point_two (lower : 0x80 ≤ c) (upper : c < 0x800) :
    encodePoint c = [0xC0 + c / 64, 0x80 + c % 64] := by
  rw [encodePoint, if_neg (by omega), if_pos upper]

theorem encode_point_three (lower : 0x800 ≤ c) (upper : c < 0x10000) :
    encodePoint c = [0xE0 + c / 4096, 0x80 + c / 64 % 64, 0x80 + c % 64] := by
  rw [encodePoint, if_neg (by omega), if_neg (by omega), if_pos upper]

theorem encode_point_four (lower : 0x10000 ≤ c) :
    encodePoint c =
      [0xF0 + c / 262144, 0x80 + c / 4096 % 64, 0x80 + c / 64 % 64, 0x80 + c % 64] := by
  rw [encodePoint, if_neg (by omega), if_neg (by omega), if_neg (by omega)]

theorem encode_point_bound (bound : c < 0x110000) : ∀ byte ∈ encodePoint c, byte < 256 := by
  intro byte member
  rw [encodePoint] at member
  split_ifs at member <;> simp only [List.mem_cons, List.not_mem_nil, or_false] at member <;> omega

end Widths

/-- A second byte is a tail; four first bytes leave out what would be too long, a surrogate or
beyond the last plane. -/
theorem allows_second_iff {first second : Nat} :
    allowsSecond first second = true ↔
      (0x80 ≤ second ∧ second ≤ 0xBF) ∧ (first = 0xE0 → 0xA0 ≤ second) ∧
        (first = 0xED → second ≤ 0x9F) ∧ (first = 0xF0 → 0x90 ≤ second) ∧
        (first = 0xF4 → second ≤ 0x8F) := by
  rw [allowsSecond, Bool.and_eq_true, decide_eq_true_iff, decide_eq_true_iff, secondRange]
  split_ifs <;> simp only <;> omega

theorem is_tail_iff {byte : Nat} : isTail byte = true ↔ 0x80 ≤ byte ∧ byte ≤ 0xBF := by
  rw [isTail, Bool.and_eq_true, decide_eq_true_iff, decide_eq_true_iff]

section Joined

variable {first second third fourth : Nat}

theorem two_bytes (lower : 0xC2 ≤ first) (upper : first < 0xE0)
    (allowed : allowsSecond first second = true) :
    IsScalar ((first - 0xC0) * 64 + (second - 0x80)) ∧
      encodePoint ((first - 0xC0) * 64 + (second - 0x80)) = [first, second] := by
  rw [allows_second_iff] at allowed
  rw [encode_point_two (by omega) (by omega)]
  refine ⟨⟨by omega, by omega⟩, ?_⟩
  simp only [List.cons.injEq, and_true]
  omega

theorem three_bytes (lower : 0xE0 ≤ first) (upper : first < 0xF0)
    (allowed : allowsSecond first second = true) (tail : isTail third = true) :
    IsScalar ((first - 0xE0) * 4096 + (second - 0x80) * 64 + (third - 0x80)) ∧
      encodePoint ((first - 0xE0) * 4096 + (second - 0x80) * 64 + (third - 0x80)) =
        [first, second, third] := by
  rw [allows_second_iff] at allowed
  rw [is_tail_iff] at tail
  rw [encode_point_three (by omega) (by omega)]
  refine ⟨⟨by omega, by omega⟩, ?_⟩
  simp only [List.cons.injEq, and_true]
  omega

theorem four_bytes (lower : 0xF0 ≤ first) (upper : first ≤ 0xF4)
    (allowed : allowsSecond first second = true) (tail : isTail third = true)
    (last : isTail fourth = true) :
    IsScalar ((first - 0xF0) * 262144 + (second - 0x80) * 4096 + (third - 0x80) * 64 +
        (fourth - 0x80)) ∧
      encodePoint ((first - 0xF0) * 262144 + (second - 0x80) * 4096 + (third - 0x80) * 64 +
        (fourth - 0x80)) = [first, second, third, fourth] := by
  rw [allows_second_iff] at allowed
  rw [is_tail_iff] at tail last
  rw [encode_point_four (by omega)]
  refine ⟨⟨by omega, by omega⟩, ?_⟩
  simp only [List.cons.injEq, and_true]
  omega

end Joined

/-- What is read as a character is what the character is written as. -/
theorem encoded_of_step_utf8 {first : Nat} {rest : List Nat} {c width : Nat}
    (read : stepUtf8 first rest = .point c width) :
    IsScalar c ∧ width = (encodePoint c).length ∧
      ∃ suffix, first :: rest = encodePoint c ++ suffix := by
  unfold stepUtf8 at read
  split at read
  · next one =>
      obtain ⟨rfl, rfl⟩ := Step.point.inj read
      rw [encode_point_one one]
      exact ⟨⟨by omega, by omega⟩, rfl, rest, rfl⟩
  split at read
  · cases read
  next started =>
  split at read
  · cases read
  next second rest =>
  split at read
  · cases read
  next allowed =>
  rw [Bool.not_eq_true', Bool.not_eq_false] at allowed
  split at read
  · next two =>
      obtain ⟨scalar, written⟩ := two_bytes (by omega) two allowed
      obtain ⟨rfl, rfl⟩ := Step.point.inj read
      rw [written]
      exact ⟨scalar, rfl, rest, rfl⟩
  split at read
  · cases read
  next third rest =>
  split at read
  · cases read
  next tail =>
  rw [Bool.not_eq_true', Bool.not_eq_false] at tail
  split at read
  · next three =>
      obtain ⟨scalar, written⟩ := three_bytes (by omega) three allowed tail
      obtain ⟨rfl, rfl⟩ := Step.point.inj read
      rw [written]
      exact ⟨scalar, rfl, rest, rfl⟩
  split at read
  · cases read
  next fourth rest =>
  split at read
  · cases read
  next last =>
  rw [Bool.not_eq_true', Bool.not_eq_false] at last
  obtain ⟨scalar, written⟩ := four_bytes (by omega) (by omega) allowed tail last
  obtain ⟨rfl, rfl⟩ := Step.point.inj read
  rw [written]
  exact ⟨scalar, rfl, rest, rfl⟩

section Steps

variable {first second third fourth : Nat} (rest : List Nat)

theorem step_utf8_two (lower : 0xC2 ≤ first) (upper : first < 0xE0)
    (allowed : allowsSecond first second = true) :
    stepUtf8 first (second :: rest) = .point ((first - 0xC0) * 64 + (second - 0x80)) 2 := by
  rw [stepUtf8.eq_def, if_neg (by omega), if_neg (by omega)]
  simp only [allowed, Bool.not_true, Bool.false_eq_true, if_false]
  exact if_pos upper

theorem step_utf8_three (lower : 0xE0 ≤ first) (upper : first < 0xF0)
    (allowed : allowsSecond first second = true) (tail : isTail third = true) :
    stepUtf8 first (second :: third :: rest) =
      .point ((first - 0xE0) * 4096 + (second - 0x80) * 64 + (third - 0x80)) 3 := by
  rw [stepUtf8.eq_def, if_neg (by omega), if_neg (by omega)]
  simp only [allowed, tail, Bool.not_true, Bool.false_eq_true, if_false]
  rw [if_neg (by omega), if_pos upper]

theorem step_utf8_four (lower : 0xF0 ≤ first) (upper : first ≤ 0xF4)
    (allowed : allowsSecond first second = true) (tail : isTail third = true)
    (last : isTail fourth = true) :
    stepUtf8 first (second :: third :: fourth :: rest) =
      .point ((first - 0xF0) * 262144 + (second - 0x80) * 4096 + (third - 0x80) * 64 +
        (fourth - 0x80)) 4 := by
  rw [stepUtf8.eq_def, if_neg (by omega), if_neg (by omega)]
  simp only [allowed, tail, last, Bool.not_true, Bool.false_eq_true, if_false]
  rw [if_neg (by omega), if_neg (by omega)]

end Steps

theorem step_utf8_of_encoded {c first : Nat} (scalar : IsScalar c) {rest suffix : List Nat}
    (encoded : first :: rest = encodePoint c ++ suffix) :
    stepUtf8 first rest = .point c (encodePoint c).length := by
  obtain ⟨bound, noSurrogate⟩ := scalar
  rcases Nat.lt_or_ge c 0x80 with one | notOne
  · rw [encode_point_one one] at encoded ⊢
    cases encoded
    exact if_pos one
  rcases Nat.lt_or_ge c 0x800 with two | notTwo
  · rw [encode_point_two notOne two] at encoded ⊢
    cases encoded
    have allowed : allowsSecond (0xC0 + c / 64) (0x80 + c % 64) = true :=
      allows_second_iff.mpr (by omega)
    have value : (0xC0 + c / 64 - 0xC0) * 64 + (0x80 + c % 64 - 0x80) = c := by omega
    have read := step_utf8_two suffix (by omega) (by omega) allowed
    rwa [value] at read
  rcases Nat.lt_or_ge c 0x10000 with three | notThree
  · rw [encode_point_three notTwo three] at encoded ⊢
    cases encoded
    have allowed : allowsSecond (0xE0 + c / 4096) (0x80 + c / 64 % 64) = true :=
      allows_second_iff.mpr (by omega)
    have tail : isTail (0x80 + c % 64) = true := is_tail_iff.mpr (by omega)
    have value : (0xE0 + c / 4096 - 0xE0) * 4096 + (0x80 + c / 64 % 64 - 0x80) * 64 +
        (0x80 + c % 64 - 0x80) = c := by omega
    have read := step_utf8_three suffix (by omega) (by omega) allowed tail
    rwa [value] at read
  · rw [encode_point_four notThree] at encoded ⊢
    cases encoded
    have allowed : allowsSecond (0xF0 + c / 262144) (0x80 + c / 4096 % 64) = true :=
      allows_second_iff.mpr (by omega)
    have tail : isTail (0x80 + c / 64 % 64) = true := is_tail_iff.mpr (by omega)
    have last : isTail (0x80 + c % 64) = true := is_tail_iff.mpr (by omega)
    have value : (0xF0 + c / 262144 - 0xF0) * 262144 + (0x80 + c / 4096 % 64 - 0x80) * 4096 +
        (0x80 + c / 64 % 64 - 0x80) * 64 + (0x80 + c % 64 - 0x80) = c := by omega
    have read := step_utf8_four suffix (by omega) (by omega) allowed tail last
    rwa [value] at read

theorem encode_point_ne_nil (c : Nat) : encodePoint c ≠ [] := by
  rw [encodePoint]
  split_ifs <;> exact List.cons_ne_nil _ _

/-- Nothing spells nothing, and nothing else. -/
theorem nil_spells_iff {text : Text} :
    ([] = text.flatMap encodePoint ∧ ∀ c ∈ text, IsScalar c) ↔ [] = text := by
  constructor
  · rintro ⟨nothing, _⟩
    cases text with
    | nil => rfl
    | cons c rest =>
        rw [List.flatMap_cons] at nothing
        exact absurd (List.append_eq_nil_iff.mp nothing.symm).1 (encode_point_ne_nil c)
  · rintro rfl
    exact ⟨rfl, List.forall_mem_nil _⟩

/-- The first character of what is spelled is known by its bytes. -/
theorem spelled_behind_iff {c first : Nat} {rest suffix : List Nat}
    (scalar : IsScalar c) (head : first :: rest = encodePoint c ++ suffix) {text : Text} :
    (first :: rest = text.flatMap encodePoint ∧ ∀ d ∈ text, IsScalar d) ↔
      ∃ others, (suffix = others.flatMap encodePoint ∧ ∀ d ∈ others, IsScalar d) ∧
        c :: others = text := by
  constructor
  · rintro ⟨spelled, scalars⟩
    cases text with
    | nil => cases spelled
    | cons d others =>
        obtain ⟨scalarHead, scalarRest⟩ := List.forall_mem_cons.mp scalars
        have same := (step_utf8_of_encoded scalar head).symm.trans
          (step_utf8_of_encoded scalarHead spelled)
        obtain ⟨rfl, _⟩ := Step.point.inj same
        rw [head, List.flatMap_cons] at spelled
        exact ⟨others, ⟨List.append_cancel_left spelled, scalarRest⟩, rfl⟩
  · rintro ⟨others, ⟨spelled, scalars⟩, rfl⟩
    exact ⟨by rw [head, spelled, List.flatMap_cons], List.forall_mem_cons.mpr ⟨scalar, scalars⟩⟩

theorem decode_with_eq_ok_iff {fuel : Nat} {items : List Nat} (room : items.length ≤ fuel)
    (position : Nat) {text : Text} :
    decodeWith .utf8 stepUtf8 fuel position items = .ok text ↔
      items = text.flatMap encodePoint ∧ ∀ c ∈ text, IsScalar c := by
  induction fuel generalizing position items text with
  | zero =>
      obtain rfl := List.eq_nil_of_length_eq_zero (Nat.le_zero.mp room)
      rw [decodeWith, Except.ok.injEq, nil_spells_iff]
  | succ fuel induction =>
      cases items with
      | nil => rw [decodeWith, Except.ok.injEq, nil_spells_iff]
      | cons first rest =>
          rw [decodeWith]
          cases step : stepUtf8 first rest with
          | bad reason width =>
              simp only
              refine iff_of_false (by rintro ⟨⟩) ?_
              rintro ⟨spelled, scalar⟩
              cases text with
              | nil => cases spelled
              | cons c text =>
                  have read := step_utf8_of_encoded (scalar c List.mem_cons_self) spelled
                  cases step.symm.trans read
          | point c width =>
              obtain ⟨scalar, rfl, suffix, head⟩ := encoded_of_step_utf8 step
              obtain ⟨byte, bytes, written⟩ := List.exists_cons_of_ne_nil (encode_point_ne_nil c)
              have behind : rest.drop ((encodePoint c).length - 1) = suffix := by
                rw [written] at head ⊢
                rw [(List.cons.inj head).2, List.length_cons, Nat.add_sub_cancel]
                exact List.drop_left
              have short : suffix.length ≤ fuel := by
                rw [← behind, List.length_drop]
                exact Nat.le_trans (Nat.sub_le _ _) (Nat.le_of_succ_le_succ room)
              simp only [behind]
              rw [Collecting.monad_bind_eq_ok_iff, spelled_behind_iff scalar head]
              simp only [induction short, Except.ok.injEq]

/-- The bytes of characters are bytes, so no byte is lost on the way. -/
theorem values_eq_iff {bytes : Bytes} {text : Text} (scalar : ∀ c ∈ text, IsScalar c) :
    values bytes = text.flatMap encodePoint ↔ bytes = encodeUtf8 text := by
  have bound : ∀ byte ∈ text.flatMap encodePoint, byte < 256 := by
    intro byte member
    obtain ⟨c, present, inside⟩ := List.mem_flatMap.mp member
    exact encode_point_bound (scalar c present).bound byte inside
  have back : (text.flatMap encodePoint).map (UInt8.toNat ∘ UInt8.ofNat) =
      text.flatMap encodePoint := by
    rw [List.map_congr_left fun byte member => ?_, List.map_id]
    rw [Function.comp_apply, UInt8.toNat_ofNat', Nat.mod_eq_of_lt (bound byte member), id_eq]
  rw [values, encodeUtf8]
  constructor
  · intro same
    rw [← same, List.map_map, List.map_congr_left fun byte _ => ?_, List.map_id]
    exact UInt8.ofNat_toNat
  · rintro rfl
    rw [List.map_map, back]

theorem decode_utf8_eq_ok_iff {bytes : Bytes} {text : Text} :
    decodeUtf8 bytes = .ok text ↔ Spells bytes text := by
  have room : (values bytes).length ≤ bytes.length := Nat.le_of_eq (List.length_map _)
  rw [decodeUtf8, decode_with_eq_ok_iff room]
  constructor
  · rintro ⟨spelled, scalar⟩
    exact ⟨(values_eq_iff scalar).mp spelled, scalar⟩
  · rintro ⟨encoded, scalar⟩
    exact ⟨(values_eq_iff scalar).mpr encoded, scalar⟩

/-- Bytes are refused exactly if they spell no text. -/
theorem decode_utf8_fails_iff {bytes : Bytes} :
    (∃ fault, decodeUtf8 bytes = .error fault) ↔ ¬∃ text, Spells bytes text := by
  simp only [← decode_utf8_eq_ok_iff]
  cases decodeUtf8 bytes with
  | ok text => simp
  | error fault => simp

end BlockExplorer.Utf
