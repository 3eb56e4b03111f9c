import Mathlib.Algebra.Group.Nat.Defs
import BlockExplorer.Proofs.EpochReplies

/-!
Epochs in bytes, exactly: the encodings and the decoder are inverse to each other
(`epochs_decode_exactly_as_encoded`). A decoder that looks at the bytes by their position, and could
look behind the last one, never does so and comes to the same.
-/

namespace BlockExplorer

namespace Epoch

/-- Why a decoder that goes by positions stops: the bytes are no epoch, it looks where there is no
byte, or it takes some other number of bytes than eight for a number. -/
inductive Stop where
  | notAnEpoch
  | outside (position : Nat)
  | notANumber (size : Nat)
  deriving DecidableEq, Repr

def byteAt (bytes : Bytes) (position : Nat) : Except Stop UInt8 :=
  match bytes[position]? with
  | some byte => .ok byte
  | none => .error (.outside position)

def unpack (bytes : Bytes) : Except Stop Nat :=
  if bytes.length = 8 then .ok (ofLittleEndian bytes) else .error (.notANumber bytes.length)

/-- Decodes by positions. Only of nine bytes is the first looked at. -/
def decodeByPosition (bytes : Bytes) : Except Stop (Option Nat) :=
  if bytes = [0] then .ok none
  else if bytes.length ≠ 9 then .error .notAnEpoch
  else do
    let mark ← byteAt bytes 0
    if mark ≠ 1 then .error .notAnEpoch
    else
      let epoch ← unpack (bytes.drop 1)
      .ok (some epoch)

def Fits (epoch : Option Nat) : Prop := ∀ e ∈ epoch, e < 2 ^ 64

theorem decode?_eq_some_iff {bytes : Bytes} {epoch : Option Nat} :
    decode? bytes = some epoch ↔ Fits epoch ∧ bytes = encode epoch := by
  have limit : limit = 2 ^ 64 := by decide
  constructor
  · intro decoded
    refine ⟨fun e present => ?_, encode_of_decode? decoded⟩
    cases present
    rw [← limit]
    exact decode?_bound decoded
  · rintro ⟨fits, rfl⟩
    rw [Fits, ← limit] at fits
    exact decode?_encode fits

/-- The byte at a place is the digit to the base 256 there. -/
theorem little_endian_eq_map (width n : Nat) :
    littleEndian width n = (List.range width).map fun place => UInt8.ofNat (n / 256 ^ place) := by
  induction width generalizing n with
  | zero => rfl
  | succ width induction =>
      have next (place : Nat) : n / 256 / 256 ^ place = n / 256 ^ (place + 1) := by
        rw [Nat.div_div_eq_div_mul, Nat.pow_succ, Nat.mul_comm]
      rw [littleEndian, induction, List.range_succ_eq_map, List.map_cons, List.map_map]
      simp only [next, Function.comp_def, Nat.succ_eq_add_one, Nat.pow_zero, Nat.div_one]

theorem decode_by_position_of_nine {mark : UInt8} {rest : Bytes} (size : rest.length = 8) :
    decodeByPosition (mark :: rest) =
      if mark = 1 then .ok (some (ofLittleEndian rest)) else .error .notAnEpoch := by
  have more : mark :: rest ≠ [0] := by
    rintro same
    cases same
    cases size
  have nine : ¬(mark :: rest).length ≠ 9 := by simp [size]
  have word : unpack rest = .ok (ofLittleEndian rest) := if_pos size
  rw [decodeByPosition, if_neg more, if_neg nine]
  by_cases marked : mark = 1
  · subst marked
    change unpack rest >>= _ = _
    rw [word]
    rfl
  · change (if mark ≠ 1 then _ else _) = _
    rw [if_pos marked, if_neg marked]

/-- Going by positions never leads outside the bytes, and to nothing else than the patterns do. -/
theorem decode_by_position_eq (bytes : Bytes) :
    decodeByPosition bytes = (decode? bytes).elim (.error .notAnEpoch) .ok := by
  by_cases nine : bytes.length = 9
  · obtain ⟨mark, rest, rfl⟩ := List.exists_cons_of_length_eq_add_one nine
    have size : rest.length = 8 := Nat.succ.inj nine
    -- Both positions that are looked at are inside, so what is left to tell is the mark.
    rw [decode_by_position_of_nine size]
    by_cases marked : mark = 1
    · subst marked
      simp only [decode?, size, if_true, Option.elim_some]
    · have unknown : decode? (mark :: rest) = none := by
        refine decode?_eq_none_iff.mpr ⟨fun same => ?_, .inr fun head => ?_⟩
        · cases same
          cases size
        · exact marked (Option.some.inj head)
      rw [if_neg marked, unknown, Option.elim_none]
  · by_cases lone : bytes = [0]
    · subst lone
      rfl
    · have unknown := decode?_eq_none_iff.mpr ⟨lone, .inl nine⟩
      rw [decodeByPosition, if_neg lone, if_pos nine, unknown, Option.elim_none]

end Epoch

theorem NodeReply.epoch_of_text_encode (bytes : Bytes) :
    epochOfText (Base64.encode bytes) =
      (Epoch.decode? bytes).elim (.error (.notAnEpoch bytes)) .ok := by
  rw [epoch_of_text_of_decode (Base64.decode_encode bytes)]
  cases Epoch.decode? bytes <;> rfl

/-- Bytes are decoded to an epoch, or to none, exactly if they are its encoding, and are refused
exactly if they are no encoding at all: neither a lone zero nor a one in front of eight bytes. The
decoder that goes by positions says the same and never looks outside the bytes, and so does the
reader of the value of a reply. In the encoding a lone zero stands for none, and a one in front of
eight digits to the base 256, the lowest first, for an epoch. -/
theorem epochs_decode_exactly_as_encoded :
    (∀ bytes epoch, Epoch.decode? bytes = some epoch ↔
      Epoch.Fits epoch ∧ bytes = Epoch.encode epoch) ∧
    (∀ bytes, Epoch.decode? bytes = none ↔
      ¬∃ epoch, Epoch.Fits epoch ∧ bytes = Epoch.encode epoch) ∧
    (∀ bytes, Epoch.decode? bytes = none ↔
      bytes ≠ [0] ∧ (bytes.length ≠ 9 ∨ bytes.head? ≠ some 1)) ∧
    (∀ bytes, Epoch.decodeByPosition bytes = (Epoch.decode? bytes).elim (.error .notAnEpoch) .ok ∧
      NodeReply.epochOfText (Base64.encode bytes) =
        (Epoch.decode? bytes).elim (.error (.notAnEpoch bytes)) .ok) ∧
    Epoch.encode none = [0] ∧
    ∀ epoch, Epoch.encode (some epoch) =
      1 :: (List.range 8).map fun place => UInt8.ofNat (epoch / 256 ^ place) := by
  refine ⟨fun bytes epoch => Epoch.decode?_eq_some_iff, fun bytes => ?_,
    fun bytes => Epoch.decode?_eq_none_iff,
    fun bytes => ⟨Epoch.decode_by_position_eq bytes, NodeReply.epoch_of_text_encode bytes⟩, rfl,
    fun epoch => ?_⟩
  · simp only [← Epoch.decode?_eq_some_iff, Option.eq_none_iff_forall_ne_some, not_exists]
  · rw [Epoch.encode, Epoch.little_endian_eq_map]

/-- The first byte is the lowest. -/
example : Epoch.decodeByPosition [1, 2, 1, 0, 0, 0, 0, 0, 0] = .ok (some 258) := by decide

end BlockExplorer
