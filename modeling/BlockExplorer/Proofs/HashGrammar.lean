import BlockExplorer.Lookup.Hash
import BlockExplorer.Text.Case

/-!
Which texts are hashes of blocks: blanks around a hash are of any kind, blanks between its pairs of
digits are ASCII, and one mark may stand in front. A text that is no hash is refused as such, and
two texts are the same hash where they differ only in blanks, the mark and the case of digits.
-/

namespace BlockExplorer

open CodePoint

namespace Hex

/-- The digits of both cases, by their values. -/
def IsDigit (value c : Nat) : Prop :=
  (Text.ofString "0123456789abcdef")[value]? = some c ∨
    (Text.ofString "0123456789ABCDEF")[value]? = some c

instance (value c : Nat) : Decidable (IsDigit value c) := inferInstanceAs (Decidable (_ ∨ _))

/-- A text of pairs of digits and the bytes that they stand for. Blanks stand between pairs and at
both ends, not inside a pair. -/
inductive Pairs : Text → Bytes → Prop
  | nil : Pairs [] []
  | blank {c : Nat} {text : Text} {bytes : Bytes} (skipped : isAsciiBlank c = true)
      (rest : Pairs text bytes) : Pairs (c :: text) bytes
  | pair {high low upper lower : Nat} {text : Text} {bytes : Bytes} (first : IsDigit upper high)
      (second : IsDigit lower low) (rest : Pairs text bytes) :
      Pairs (high :: low :: text) (UInt8.ofNat (16 * upper + lower) :: bytes)

theorem IsDigit.small {value c : Nat} (digit : IsDigit value c) : value < 16 := by
  rcases digit with found | found
  · exact (List.getElem?_eq_some_iff.mp found).1
  · exact (List.getElem?_eq_some_iff.mp found).1

/-- What holds of the digits of each value holds of every digit. -/
theorem IsDigit.all (holds : Nat → Nat → Prop)
    (known : ∀ value ∈ List.range 16, (∀ c ∈ (Text.ofString "0123456789abcdef")[value]?,
      holds value c) ∧ ∀ c ∈ (Text.ofString "0123456789ABCDEF")[value]?, holds value c)
    {value c : Nat} (digit : IsDigit value c) : holds value c := by
  have both := known value (List.mem_range.mpr digit.small)
  exact digit.elim (both.1 c) (both.2 c)

theorem digit_value?_eq_some_iff {value c : Nat} :
    digitValue? c = some value ↔ IsDigit value c := by
  constructor
  · intro read
    have bound : c < 0x67 := by
      apply Nat.lt_of_not_le
      intro high
      rw [digitValue?, if_neg (by omega), if_neg (by omega), if_neg (by omega)] at read
      cases read
    have all : ∀ c ∈ List.range 0x67, ∀ value ∈ digitValue? c, IsDigit value c := by decide
    exact all c (List.mem_range.mpr bound) value read
  · apply IsDigit.all fun value c => digitValue? c = some value
    decide

theorem IsDigit.solid {value c : Nat} (digit : IsDigit value c) : isBlank c = false := by
  apply IsDigit.all (fun _ c => isBlank c = false) ?_ digit
  decide

/-- No digit is the letter of a mark. -/
theorem IsDigit.unmarked {value c : Nat} (digit : IsDigit value c) : c ≠ 0x78 ∧ c ≠ 0x58 := by
  apply IsDigit.all (fun _ c => c ≠ 0x78 ∧ c ≠ 0x58) ?_ digit
  decide

theorem IsDigit.folded {value c : Nat} (digit : IsDigit value c) :
    c < 0x80 ∧ CodePoint.lower c = [hexDigit value] := by
  apply IsDigit.all (fun value c => c < 0x80 ∧ CodePoint.lower c = [hexDigit value]) ?_ digit
  decide

theorem IsDigit.not_ascii_blank {value c : Nat} (digit : IsDigit value c) :
    isAsciiBlank c = false := by
  by_cases blank : isAsciiBlank c = true
  · have wide := is_blank_of_is_ascii_blank blank
    rw [digit.solid] at wide
    cases wide
  · exact Bool.eq_false_iff.mpr blank

theorem pair?_eq_some_iff {high low : Nat} {byte : UInt8} :
    pair? high low = some byte ↔ ∃ upper lower, IsDigit upper high ∧ IsDigit lower low ∧
      byte = UInt8.ofNat (16 * upper + lower) := by
  simp only [pair?, Option.bind_eq_bind, Option.bind_eq_some_iff, digit_value?_eq_some_iff,
    Option.some.injEq]
  constructor
  · rintro ⟨upper, first, lower, second, rfl⟩
    exact ⟨upper, lower, first, second, by rw [Nat.mul_comm]⟩
  · rintro ⟨upper, lower, first, second, rfl⟩
    exact ⟨upper, first, lower, second, by rw [Nat.mul_comm]⟩

theorem decode?_blank {c : Nat} (blank : isAsciiBlank c = true) (text : Text) :
    decode? (c :: text) = decode? text := by
  cases text with
  | nil => simp [decode?, blank]
  | cons d rest => simp [decode?, blank]

theorem pairs_of_decode? {text : Text} {bytes : Bytes} (read : decode? text = some bytes) :
    Pairs text bytes := by
  fun_induction decode? text generalizing bytes with
  | case1 =>
      cases read
      exact .nil
  | case2 c blank =>
      cases read
      exact .blank blank .nil
  | case3 => cases read
  | case4 c d rest blank induction => exact .blank blank (induction read)
  | case5 c d rest _ induction =>
      simp only [Option.bind_eq_bind, Option.bind_eq_some_iff, Option.some.injEq] at read
      obtain ⟨byte, first, others, behind, rfl⟩ := read
      obtain ⟨upper, lower, high, low, rfl⟩ := pair?_eq_some_iff.mp first
      exact .pair high low (induction behind)

theorem Pairs.decode? {text : Text} {bytes : Bytes} (pairs : Pairs text bytes) :
    Hex.decode? text = some bytes := by
  induction pairs with
  | nil => rfl
  | blank skipped rest induction => rw [decode?_blank skipped, induction]
  | pair first second rest induction =>
      have byte := pair?_eq_some_iff.mpr ⟨_, _, first, second, rfl⟩
      simp [Hex.decode?, first.not_ascii_blank, byte, induction]

theorem decode?_eq_some_iff {text : Text} {bytes : Bytes} :
    decode? text = some bytes ↔ Pairs text bytes :=
  ⟨pairs_of_decode?, Pairs.decode?⟩

namespace Pairs

variable {text : Text} {bytes : Bytes}

theorem without_front (pairs : Pairs text bytes) :
    ∃ front core, text = front ++ core ∧ (∀ c ∈ front, isBlank c = true) ∧
      Pairs core bytes ∧ ∀ c ∈ core.head?, isBlank c = false := by
  induction pairs with
  | nil => exact ⟨[], [], rfl, by simp, .nil, by simp⟩
  | @blank c text bytes skipped rest induction =>
      obtain ⟨front, core, rfl, blanks, pairs, starts⟩ := induction
      have wide := is_blank_of_is_ascii_blank skipped
      exact ⟨c :: front, core, rfl, by simpa using ⟨wide, blanks⟩, pairs, starts⟩
  | pair first second rest =>
      exact ⟨[], _, rfl, by simp, .pair first second rest, by simp [first.solid]⟩

theorem without_back (pairs : Pairs text bytes) :
    ∃ core back, text = core ++ back ∧ (∀ c ∈ back, isBlank c = true) ∧
      Pairs core bytes ∧ ∀ c ∈ core.getLast?, isBlank c = false := by
  induction pairs with
  | nil => exact ⟨[], [], rfl, by simp, .nil, by simp⟩
  | @blank c text bytes skipped rest induction =>
      obtain ⟨core, back, rfl, blanks, pairs, ends⟩ := induction
      cases core with
      | nil =>
          have wide := is_blank_of_is_ascii_blank skipped
          exact ⟨[], c :: back, rfl, by simpa using ⟨wide, blanks⟩, pairs, by simp⟩
      | cons d core => exact ⟨c :: d :: core, back, rfl, blanks, .blank skipped pairs, ends⟩
  | @pair high low upper lower text bytes first second rest induction =>
      obtain ⟨core, back, rfl, blanks, pairs, ends⟩ := induction
      refine ⟨high :: low :: core, back, rfl, blanks, .pair first second pairs, ?_⟩
      cases core with
      | nil => simp [second.solid]
      | cons d core => exact ends

/-- Without blanks at its ends, the text of pairs still says the same bytes. -/
theorem core (pairs : Pairs text bytes) :
    ∃ front core back, text = front ++ core ++ back ∧ (∀ c ∈ front, isBlank c = true) ∧
      (∀ c ∈ back, isBlank c = true) ∧ Pairs core bytes ∧
      (∀ c ∈ core.head?, isBlank c = false) ∧ ∀ c ∈ core.getLast?, isBlank c = false := by
  obtain ⟨start, back, rfl, behind, pairs, ends⟩ := pairs.without_back
  obtain ⟨front, core, rfl, blanks, pairs, starts⟩ := pairs.without_front
  refine ⟨front, core, back, rfl, blanks, behind, pairs, starts, ?_⟩
  cases core with
  | nil => simp
  | cons c core => simpa using ends

theorem ne_nil (pairs : Pairs text bytes) (filled : bytes ≠ []) : text ≠ [] := by
  intro none
  cases none
  cases pairs
  exact filled rfl

theorem drop_mark (pairs : Pairs text bytes) (starts : ∀ c ∈ text.head?, isBlank c = false) :
    BlockHash.dropMark text = text := by
  cases pairs with
  | nil => rfl
  | blank skipped rest =>
      have wide := is_blank_of_is_ascii_blank skipped
      simp [wide] at starts
  | pair first second rest =>
      exact BlockHash.drop_mark_of_second second.unmarked.1 second.unmarked.2

/-- Without bytes, nothing but blanks is left. -/
theorem blanks (pairs : Pairs text []) : ∀ c ∈ text, isBlank c = true := by
  generalize none : ([] : Bytes) = bytes at pairs
  induction pairs with
  | nil => simp
  | blank skipped rest induction =>
      simpa using ⟨is_blank_of_is_ascii_blank skipped, induction none⟩
  | pair => cases none

theorem filled (pairs : Pairs text bytes) (present : text ≠ [])
    (ends : ∀ c ∈ text.getLast?, isBlank c = false) : bytes ≠ [] := by
  rintro rfl
  have last := ends _ (List.getLast?_eq_some_getLast present)
  rw [pairs.blanks _ (List.getLast_mem present)] at last
  cases last

theorem solid (pairs : Pairs text bytes) : Pairs (text.filter fun c => !isBlank c) bytes := by
  induction pairs with
  | nil => exact .nil
  | blank skipped rest induction =>
      simpa [is_blank_of_is_ascii_blank skipped] using induction
  | pair first second rest induction =>
      simp only [List.filter_cons, first.solid, second.solid, Bool.not_false, if_true]
      exact .pair first second induction

theorem ascii (pairs : Pairs text bytes) : ∀ c ∈ text, c < 0x80 := by
  induction pairs with
  | nil => simp
  | blank skipped rest induction =>
      simp only [isAsciiBlank, Bool.or_eq_true, Bool.and_eq_true, decide_eq_true_eq,
        beq_iff_eq] at skipped
      simp only [List.mem_cons, forall_eq_or_imp]
      exact ⟨by omega, induction⟩
  | pair first second rest induction =>
      simpa using ⟨first.folded.1, second.folded.1, induction⟩

/-- Without blanks and in small letters, the text is what the bytes are written as. -/
theorem folded (pairs : Pairs text bytes) :
    Text.toLower (text.filter fun c => !isBlank c) = lower bytes := by
  rw [Text.to_lower_of_ascii pairs.solid.ascii]
  induction pairs with
  | nil => rfl
  | blank skipped rest induction =>
      simpa [is_blank_of_is_ascii_blank skipped] using induction
  | @pair high low upper lower text bytes first second rest induction =>
      have above := first.small
      have below := second.small
      have byte : (UInt8.ofNat (16 * upper + lower)).toNat = 16 * upper + lower := by
        rw [UInt8.toNat_ofNat']
        exact Nat.mod_eq_of_lt (by omega)
      have upperHalf : (16 * upper + lower) / 16 = upper := by omega
      have lowerHalf : (16 * upper + lower) % 16 = lower := by omega
      simp only [List.filter_cons, first.solid, second.solid, Bool.not_false, if_true,
        List.flatMap_cons, first.folded.2, second.folded.2, induction]
      simp only [Hex.lower, encodeWith, byte, upperHalf, lowerHalf]
      rfl

end Pairs

theorem pairs_lower (bytes : Bytes) : Pairs (lower bytes) bytes :=
  decode?_eq_some_iff.mp (decode?_lower bytes)

theorem pairs_upper (bytes : Bytes) : Pairs (upper bytes) bytes :=
  decode?_eq_some_iff.mp (decode?_upper bytes)

end Hex

namespace BlockHash

def marks : List Text := [[], Text.ofString "0x", Text.ofString "0X"]

/-- A text that says a hash: pairs of digits for its bytes, of which there is one at least, a mark
in front of them or none, and blanks around. -/
def Written (text : Text) (hash : Bytes) : Prop :=
  hash ≠ [] ∧ ∃ before mark digits after, text = before ++ (mark ++ digits) ++ after ∧
    (∀ c ∈ before, isBlank c = true) ∧ (∀ c ∈ after, isBlank c = true) ∧ mark ∈ marks ∧
    Hex.Pairs digits hash

def folded (text : Text) : Text :=
  Text.toLower (dropMark (text.filter fun c => !isBlank c))

theorem drop_mark_eq (text : Text) : ∃ mark ∈ marks, text = mark ++ dropMark text := by
  unfold dropMark
  split
  · exact ⟨Text.ofString "0x", by simp [marks], rfl⟩
  · exact ⟨Text.ofString "0X", by simp [marks], rfl⟩
  · exact ⟨[], by simp [marks], rfl⟩

theorem marked_append {mark : Text} (known : mark ∈ marks) (marked : mark ≠ []) (digits : Text) :
    (mark ++ digits).head? = some 0x30 ∧ dropMark (mark ++ digits) = digits := by
  simp only [marks, List.mem_cons, List.not_mem_nil, or_false] at known
  rcases known with rfl | rfl | rfl
  · exact absurd rfl marked
  · exact ⟨rfl, rfl⟩
  · exact ⟨rfl, rfl⟩

/-- What is left of a text without blanks around it and without a mark does not end in a blank. -/
theorem ends_drop_mark_trim (text : Text) :
    ∀ c ∈ (dropMark (Text.trim isBlank text)).getLast?, isBlank c = false := by
  obtain ⟨_, _, _, _, _, _, ends⟩ := Text.trim_eq_iff.mp (rfl : Text.trim isBlank text = _)
  obtain ⟨mark, _, whole⟩ := drop_mark_eq (Text.trim isBlank text)
  intro c last
  apply ends
  rw [whole, List.getLast?_append, Option.mem_def.mp last]
  rfl

/-- A hash is read from the digits that are left without blanks around them and without a mark. -/
theorem parse_eq_ok_iff {text : Text} {hash : Bytes} :
    parse text = .ok hash ↔
      hash ≠ [] ∧ Hex.Pairs (dropMark (Text.trim isBlank text)) hash := by
  have ends := ends_drop_mark_trim text
  rw [parse, ← Hex.decode?_eq_some_iff]
  generalize dropMark (Text.trim isBlank text) = digits at ends ⊢
  cases digits with
  | nil => simp [Hex.decode?, eq_comm]
  | cons c rest =>
      cases read : Hex.decode? (c :: rest) with
      | none => simp [read]
      | some bytes =>
          have pairs := Hex.decode?_eq_some_iff.mp read
          have filled := pairs.filled (List.cons_ne_nil c rest) ends
          simp only [read, Except.ok.injEq, Option.some.injEq]
          constructor
          · rintro rfl
            exact ⟨filled, rfl⟩
          · exact And.right

/-- Without a mark, the blanks in front of the digits are trimmed with those around the text. -/
theorem drop_mark_trim_unmarked {before digits after : Text} {hash : Bytes}
    (front : ∀ c ∈ before, isBlank c = true) (behind : ∀ c ∈ after, isBlank c = true)
    (pairs : Hex.Pairs digits hash) :
    Hex.Pairs (dropMark (Text.trim isBlank (before ++ digits ++ after))) hash := by
  obtain ⟨inner, core, back, rfl, blanks, others, pairs, starts, ends⟩ := pairs.core
  have trimmed : Text.trim isBlank (before ++ (inner ++ core ++ back) ++ after) = core := by
    apply Text.trim_eq_iff.mpr
    refine ⟨before ++ inner, back ++ after, by simp, ?_, ?_, starts, ends⟩
    · exact List.forall_mem_append.mpr ⟨front, blanks⟩
    · exact List.forall_mem_append.mpr ⟨others, behind⟩
  rw [trimmed, pairs.drop_mark starts]
  exact pairs

theorem drop_mark_trim_marked {before mark digits after : Text} {hash : Bytes}
    (front : ∀ c ∈ before, isBlank c = true) (behind : ∀ c ∈ after, isBlank c = true)
    (known : mark ∈ marks) (marked : mark ≠ []) (pairs : Hex.Pairs digits hash)
    (filled : hash ≠ []) :
    Hex.Pairs (dropMark (Text.trim isBlank (before ++ (mark ++ digits) ++ after))) hash := by
  obtain ⟨core, back, rfl, others, pairs, ends⟩ := pairs.without_back
  obtain ⟨starts, dropped⟩ := marked_append known marked core
  have trimmed : Text.trim isBlank (before ++ (mark ++ (core ++ back)) ++ after) =
      mark ++ core := by
    apply Text.trim_eq_iff.mpr
    refine ⟨before, back ++ after, by simp, front, ?_, ?_, ?_⟩
    · exact List.forall_mem_append.mpr ⟨others, behind⟩
    · rw [starts]
      decide
    · rw [List.getLast?_append, List.getLast?_eq_some_getLast (pairs.ne_nil filled)]
      rw [List.getLast?_eq_some_getLast (pairs.ne_nil filled)] at ends
      exact ends
  rw [trimmed, dropped]
  exact pairs

/-- Reading a hash accepts exactly the texts that say one. -/
theorem parse_eq_ok_iff_written {text : Text} {hash : Bytes} :
    parse text = .ok hash ↔ Written text hash := by
  rw [parse_eq_ok_iff, Written]
  apply and_congr_right
  intro filled
  constructor
  · intro pairs
    obtain ⟨before, after, whole, front, behind, -, -⟩ :=
      Text.trim_eq_iff.mp (rfl : Text.trim isBlank text = _)
    obtain ⟨mark, known, marked⟩ := drop_mark_eq (Text.trim isBlank text)
    exact ⟨before, mark, _, after, marked ▸ whole, front, behind, known, pairs⟩
  · rintro ⟨before, mark, digits, after, rfl, front, behind, known, pairs⟩
    by_cases marked : mark = []
    · rw [marked]
      exact drop_mark_trim_unmarked front behind pairs
    · exact drop_mark_trim_marked front behind known marked pairs filled

theorem folded_of_written {text : Text} {hash : Bytes} (written : Written text hash) :
    folded text = Hex.lower hash := by
  obtain ⟨filled, before, mark, digits, after, rfl, front, behind, known, pairs⟩ := written
  have none : ∀ blanks : Text, (∀ c ∈ blanks, isBlank c = true) →
      (blanks.filter fun c => !isBlank c) = [] := by
    intro blanks all
    simpa using all
  have solid : ∀ c ∈ mark, isBlank c = false := by
    have all : ∀ mark ∈ marks, ∀ c ∈ mark, isBlank c = false := by decide
    exact all mark known
  have kept : (mark.filter fun c => !isBlank c) = mark := by
    simpa using solid
  have starts : ∀ c ∈ (digits.filter fun c => !isBlank c).head?, isBlank c = false := by
    intro c first
    have member := List.mem_of_mem_head? first
    simpa using (List.mem_filter.mp member).2
  rw [folded, List.filter_append, List.filter_append, List.filter_append, none before front,
    none after behind, kept, List.nil_append, List.append_nil]
  by_cases marked : mark = []
  · rw [marked, List.nil_append, pairs.solid.drop_mark starts, pairs.folded]
  · rw [(marked_append known marked _).2, pairs.folded]

theorem code_of_parse_eq_error {text : Text} {fault : ClientFault}
    (refused : parse text = .error fault) : fault.code = .invalidHash := by
  rw [parse] at refused
  split at refused
  · cases refused
    rfl
  · split at refused
    · cases refused
    · cases refused
      rfl

theorem written_of_blanks {before mark digits after : Text} {hash : Bytes} (filled : hash ≠ [])
    (front : ∀ c ∈ before, isBlank c = true) (behind : ∀ c ∈ after, isBlank c = true)
    (known : mark ∈ marks) (pairs : Hex.Pairs digits hash) :
    Written (before ++ (mark ++ digits) ++ after) hash :=
  ⟨filled, before, mark, digits, after, rfl, front, behind, known, pairs⟩

theorem parse_upper {hash : Bytes} (filled : hash ≠ []) : parse (Hex.upper hash) = .ok hash := by
  have written : Written ([] ++ ([] ++ Hex.upper hash) ++ []) hash :=
    written_of_blanks filled (by simp) (by simp) (by simp [marks]) (Hex.pairs_upper hash)
  rw [List.nil_append, List.nil_append, List.append_nil] at written
  exact parse_eq_ok_iff_written.mpr written

end BlockHash

/-- A text is read as a hash exactly where it says one, and every other text is refused as a hash.
The digits of a hash may be of either case, with any mark and with blanks around them, and two
texts are the same hash where their digits are the same. -/
theorem hashes_parse_by_grammar :
    (∀ text hash, BlockHash.parse text = .ok hash ↔ BlockHash.Written text hash) ∧
    (∀ text, (∀ hash, ¬BlockHash.Written text hash) →
      ∃ fault, BlockHash.parse text = .error fault ∧ fault.code = .invalidHash) ∧
    (∀ hash : Bytes, hash ≠ [] → ∀ digits ∈ [Hex.lower hash, Hex.upper hash],
      ∀ mark ∈ BlockHash.marks, ∀ before after : Text,
        (∀ c ∈ before, isBlank c = true) → (∀ c ∈ after, isBlank c = true) →
        BlockHash.parse (before ++ (mark ++ digits) ++ after) = .ok hash) ∧
    (∀ first second hash other, BlockHash.parse first = .ok hash →
      BlockHash.parse second = .ok other →
      (hash = other ↔ BlockHash.folded first = BlockHash.folded second)) := by
  refine ⟨fun text hash => BlockHash.parse_eq_ok_iff_written, ?_, ?_, ?_⟩
  · intro text unsaid
    cases read : BlockHash.parse text with
    | ok hash => exact absurd (BlockHash.parse_eq_ok_iff_written.mp read) (unsaid hash)
    | error fault => exact ⟨fault, rfl, BlockHash.code_of_parse_eq_error read⟩
  · intro hash filled digits spelled mark known before after front behind
    have pairs : Hex.Pairs digits hash := by
      simp only [List.mem_cons, List.not_mem_nil, or_false] at spelled
      rcases spelled with rfl | rfl
      · exact Hex.pairs_lower hash
      · exact Hex.pairs_upper hash
    apply BlockHash.parse_eq_ok_iff_written.mpr
    exact BlockHash.written_of_blanks filled front behind known pairs
  · intro first second hash other firstRead secondRead
    rw [BlockHash.folded_of_written (BlockHash.parse_eq_ok_iff_written.mp firstRead),
      BlockHash.folded_of_written (BlockHash.parse_eq_ok_iff_written.mp secondRead)]
    constructor
    · intro same
      rw [same]
    · intro same
      have read := congrArg Hex.decode? same
      rw [Hex.decode?_lower, Hex.decode?_lower] at read
      exact Option.some.inj read

theorem hashes_parse_by_grammar_mixed_case :
    (∃ fault, BlockHash.parse (Text.ofString "0xa bc 1") = .error fault ∧
      fault.code = .invalidHash) ∧
    BlockHash.parse ([0x2003, 0x0A] ++ (Text.ofString "0X" ++ Hex.upper [0xAB, 0xC1]) ++ [0x85]) =
      .ok [0xAB, 0xC1] ∧
    BlockHash.folded (Text.ofString "0x\taB c1") = BlockHash.folded (Text.ofString " AbC1") ∧
    BlockHash.folded (Text.ofString "0xab") ≠ BlockHash.folded (Text.ofString "AC") := by
  obtain ⟨said, refused, spelled, same⟩ := hashes_parse_by_grammar
  refine ⟨refused _ ?_, ?_, (same _ _ [0xAB, 0xC1] _ rfl rfl).mp rfl, ?_⟩
  · intro hash written
    cases (said _ hash).mpr written
  · apply spelled _ (by decide) _ (by simp) _ (by simp [BlockHash.marks])
    · decide
    · decide
  · intro folded
    cases (same _ _ [0xAB] [0xAC] rfl rfl).mpr folded

end BlockExplorer
