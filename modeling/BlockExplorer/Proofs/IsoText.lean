import BlockExplorer.Calendar.Timestamp

/-!
The written form of a point of time, part by part. Every number in it is spelled in decimal with
zeros before it up to the width of its part; a fraction of a second stands only where there is one,
and an offset only where it is known, in hours and whole minutes with a sign.
-/

namespace BlockExplorer

structure SpellsNumber (width n : Nat) (s : String) : Prop where
  digits : ∀ c ∈ s.toList, c.isDigit = true
  value : Nat.ofDigitChars 10 s.toList 0 = n
  length : s.toList.length = max width (Nat.toDigits 10 n).length

namespace Timestamp

inductive SpellsFraction : (microsecond : Nat) → String → Prop
  | none : SpellsFraction 0 ""
  | some {microsecond : Nat} {digits : String} (part : microsecond ≠ 0)
      (spelled : SpellsNumber 6 microsecond digits) : SpellsFraction microsecond ("." ++ digits)

/-- The part behind the time of day. The seconds of an offset are left out. -/
inductive SpellsOffset : Option Int → String → Prop
  | unknown : SpellsOffset none ""
  | universal : SpellsOffset (some 0) "Z"
  | east {offset : Int} {hours minutes : String} (ahead : 0 < offset)
      (hour : SpellsNumber 2 (offset.natAbs / 60 / 60) hours)
      (minute : SpellsNumber 2 (offset.natAbs / 60 % 60) minutes) :
      SpellsOffset (some offset) ("+" ++ hours ++ ":" ++ minutes)
  | west {offset : Int} {hours minutes : String} (behind : offset < 0)
      (hour : SpellsNumber 2 (offset.natAbs / 60 / 60) hours)
      (minute : SpellsNumber 2 (offset.natAbs / 60 % 60) minutes) :
      SpellsOffset (some offset) ("-" ++ hours ++ ":" ++ minutes)

/-- The text is the written form of a point of time after ISO 8601. -/
inductive IsIso (t : Timestamp) : String → Prop
  | parts {year month day hour minute second fraction offset : String}
      (years : SpellsNumber 4 t.year year) (months : SpellsNumber 2 t.month month)
      (days : SpellsNumber 2 t.day day) (hours : SpellsNumber 2 t.hour hour)
      (minutes : SpellsNumber 2 t.minute minute) (seconds : SpellsNumber 2 t.second second)
      (fractions : SpellsFraction t.microsecond fraction)
      (offsets : SpellsOffset t.offset offset) :
      IsIso t (year ++ "-" ++ month ++ "-" ++ day ++ "T" ++ hour ++ ":" ++ minute ++ ":" ++
        second ++ fraction ++ offset)

theorem to_list_padded (width n : Nat) : (padded width n).toList =
    List.replicate (width - (Nat.toDigits 10 n).length) '0' ++ Nat.toDigits 10 n := by
  have digits : (toString n).toList = Nat.toDigits 10 n := by
    rw [Nat.toString_eq_repr, Nat.toList_repr]
  have zeros (count : Nat) : ("".pushn '0' count).toList = List.replicate count '0' := by
    rw [String.pushn_eq_repeat_push]
    induction count with
    | zero => rfl
    | succ count induction =>
        rw [Nat.repeat, String.toList_push, induction, List.replicate_succ']
  rw [padded, String.toList_append, zeros, digits, ← String.length_toList, digits]

theorem padded_spells_number (width n : Nat) : SpellsNumber width n (padded width n) where
  digits := by
    intro c member
    rw [to_list_padded] at member
    rcases List.mem_append.mp member with zero | digit
    · rw [List.eq_of_mem_replicate zero]
      rfl
    · exact Nat.isDigit_of_mem_toDigits (by decide) (by decide) digit
  value := by
    rw [to_list_padded, Nat.ofDigitChars_append, Nat.ofDigitChars_replicate_zero, Nat.mul_zero,
      Nat.ofDigitChars_ten_toDigits]
  length := by
    rw [to_list_padded, List.length_append, List.length_replicate]
    omega

theorem offset_text_spells_offset {offset : Int} (shifted : offset ≠ 0) :
    SpellsOffset (some offset) (offsetText offset) := by
  have hours := padded_spells_number 2 (offset.natAbs / 60 / 60)
  have minutes := padded_spells_number 2 (offset.natAbs / 60 % 60)
  rw [offsetText]
  by_cases behind : offset < 0
  · rw [if_pos behind]
    exact .west behind hours minutes
  · rw [if_neg behind]
    exact .east (by omega) hours minutes

theorem to_text_is_iso (t : Timestamp) : t.IsIso t.toText := by
  have fraction : SpellsFraction t.microsecond
      (if t.microsecond = 0 then "" else "." ++ padded 6 t.microsecond) := by
    split
    · next whole =>
        rw [whole]
        exact .none
    · next part => exact .some part (padded_spells_number 6 _)
  rw [toText, localText]
  refine .parts (padded_spells_number 4 _) (padded_spells_number 2 _) (padded_spells_number 2 _)
    (padded_spells_number 2 _) (padded_spells_number 2 _) (padded_spells_number 2 _) fraction ?_
  split
  · next unknown =>
      rw [unknown]
      exact .unknown
  · next universal =>
      rw [universal]
      exact .universal
  · next offset shifted known =>
      rw [known]
      exact offset_text_spells_offset shifted

end Timestamp

end BlockExplorer
