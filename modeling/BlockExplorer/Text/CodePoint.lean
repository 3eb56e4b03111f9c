/-!
Text as a list of Unicode code points. Documents that arrive from outside may hold a lone
surrogate, which `Char` has no place for, so everything that inspects text works on code points;
`Text.toString` is the way back to a `String`.
-/

namespace BlockExplorer

/-- Code points in order. A code point is a number below `0x110000`, surrogates included. -/
abbrev Text := List Nat

namespace Text

def ofString (s : String) : Text := s.toList.map Char.toNat

def isSurrogate (point : Nat) : Bool := 0xD800 ≤ point && point ≤ 0xDFFF

def isUnicode (text : Text) : Bool := text.all fun point => !isSurrogate point

/-- The character of a code point. A lone surrogate is shown as U+FFFD. -/
def character (point : Nat) : Char :=
  if point < 0xD800 ∨ (0xDFFF < point ∧ point < 0x110000) then Char.ofNat point
  else Char.ofNat 0xFFFD

def toString (text : Text) : String := String.ofList (text.map character)

theorem character_to_nat (c : Char) : character c.toNat = c := by
  have valid : c.toNat < 0xD800 ∨ (0xDFFF < c.toNat ∧ c.toNat < 0x110000) := c.valid
  rw [character, if_pos valid, Char.ofNat_toNat]

/-- Reading a string as code points loses nothing. -/
theorem to_string_of_string (s : String) : toString (ofString s) = s := by
  have same : (s.toList.map Char.toNat).map character = s.toList := by
    rw [List.map_map]
    exact (List.map_congr_left fun c _ => character_to_nat c).trans (List.map_id _)
  rw [toString, ofString, same, String.ofList_toList]

theorem of_string_inj {s t : String} : ofString s = ofString t ↔ s = t := by
  constructor
  · intro same
    rw [← to_string_of_string s, same, to_string_of_string]
  · intro same
    rw [same]

theorem to_nat_of_nat_of_ascii {c : Nat} (ascii : c < 0x80) : (Char.ofNat c).toNat = c := by
  have valid : c.isValidChar := Or.inl (by omega)
  rw [Char.ofNat, dif_pos valid]
  rfl

/-- ASCII text is unchanged by a trip through a string. -/
theorem of_string_to_string {text : Text} (ascii : ∀ c ∈ text, c < 0x80) :
    ofString (toString text) = text := by
  have same : (text.map character).map Char.toNat = text := by
    rw [List.map_map]
    refine (List.map_congr_left fun c member => ?_).trans (List.map_id _)
    have low := ascii c member
    have valid : c < 0xD800 ∨ (0xDFFF < c ∧ c < 0x110000) := Or.inl (by omega)
    simp only [Function.comp_apply, character, if_pos valid, id_eq]
    exact to_nat_of_nat_of_ascii low
  rw [ofString, toString, String.toList_ofList, same]

def startsWith (text word : Text) : Bool := word.isPrefixOf text

def includes (word : Text) : Text → Bool
  | [] => word.isEmpty
  | point :: rest => startsWith (point :: rest) word || includes word rest

/-- The pieces of a text between the occurrences of one separating point. There is always at
least one piece. -/
def split (separator : Nat) : Text → List Text
  | [] => [[]]
  | point :: rest =>
      if point = separator then [] :: split separator rest
      else match split separator rest with
        | [] => [[point]]
        | piece :: pieces => (point :: piece) :: pieces

def join (separator : Nat) : List Text → Text
  | [] => []
  | [piece] => piece
  | piece :: pieces => piece ++ separator :: join separator pieces

theorem split_ne_nil (separator : Nat) (text : Text) : split separator text ≠ [] := by
  cases text with
  | nil => simp [split]
  | cons point rest =>
      rw [split]
      split
      · simp
      · split <;> simp

/-- Joining the pieces of a text gives the text back. -/
theorem join_split (separator : Nat) (text : Text) :
    join separator (split separator text) = text := by
  induction text with
  | nil => rfl
  | cons point rest induction =>
      have pieces := split_ne_nil separator rest
      rw [split]
      cases equation : split separator rest with
      | nil => exact absurd equation pieces
      | cons piece others =>
          rw [equation] at induction
          split
          · next same =>
              rw [join, induction, same]
              · rfl
              · simp
          · cases others with
            | nil => simpa [join] using induction
            | cons next others => simpa [join] using induction

theorem mem_of_mem_join {separator c : Nat} {pieces : List Text}
    (member : c ∈ join separator pieces) : c = separator ∨ ∃ piece ∈ pieces, c ∈ piece := by
  induction pieces with
  | nil => cases member
  | cons piece rest induction =>
      cases rest with
      | nil => exact .inr ⟨piece, List.mem_cons_self, member⟩
      | cons next others =>
          rcases List.mem_append.mp member with inside | later
          · exact .inr ⟨piece, List.mem_cons_self, inside⟩
          rcases List.mem_cons.mp later with same | deeper
          · exact .inl same
          rcases induction deeper with same | ⟨other, known, inside⟩
          · exact .inl same
          · exact .inr ⟨other, List.mem_cons_of_mem piece known, inside⟩

theorem split_cons_of_ne {separator point : Nat} (other : point ≠ separator) {text piece : Text}
    {pieces : List Text} (rest : split separator text = piece :: pieces) :
    split separator (point :: text) = (point :: piece) :: pieces := by
  rw [split, if_neg other, rest]

theorem not_mem_of_mem_split {separator : Nat} {text piece : Text}
    (member : piece ∈ split separator text) : separator ∉ piece := by
  induction text generalizing piece with
  | nil =>
      cases List.mem_singleton.mp member
      exact List.not_mem_nil
  | cons point rest induction =>
      by_cases same : point = separator
      · rw [split, if_pos same] at member
        rcases List.mem_cons.mp member with rfl | later
        · exact List.not_mem_nil
        · exact induction later
      · obtain ⟨first, others, pieces⟩ := List.exists_cons_of_ne_nil (split_ne_nil separator rest)
        rw [split_cons_of_ne same pieces] at member
        rcases List.mem_cons.mp member with rfl | later
        · intro inside
          rcases List.mem_cons.mp inside with equal | deeper
          · exact same equal.symm
          · exact induction (pieces ▸ List.mem_cons_self) deeper
        · exact induction (pieces ▸ List.mem_cons_of_mem first later)

theorem split_of_not_mem {separator : Nat} {piece : Text} (solid : separator ∉ piece) :
    split separator piece = [piece] := by
  induction piece with
  | nil => rfl
  | cons point rest induction =>
      have other : point ≠ separator := (List.ne_of_not_mem_cons solid).symm
      exact split_cons_of_ne other (induction (List.not_mem_of_not_mem_cons solid))

theorem split_append {separator : Nat} {piece : Text} (solid : separator ∉ piece) (rest : Text) :
    split separator (piece ++ separator :: rest) = piece :: split separator rest := by
  induction piece with
  | nil => rw [List.nil_append, split, if_pos rfl]
  | cons point others induction =>
      have other : point ≠ separator := (List.ne_of_not_mem_cons solid).symm
      exact split_cons_of_ne other (induction (List.not_mem_of_not_mem_cons solid))

/-- Splitting undoes joining where no piece has the separator in it. -/
theorem split_join {separator : Nat} {pieces : List Text} (filled : pieces ≠ [])
    (solid : ∀ piece ∈ pieces, separator ∉ piece) :
    split separator (join separator pieces) = pieces := by
  induction pieces with
  | nil => exact absurd rfl filled
  | cons piece others induction =>
      have head := solid piece List.mem_cons_self
      cases others with
      | nil => exact split_of_not_mem head
      | cons next others =>
          have tail := induction (List.cons_ne_nil _ _) fun other member =>
            solid other (List.mem_cons_of_mem piece member)
          rw [join, split_append head, tail]
          exact List.cons_ne_nil _ _

/-- The pieces of a text are those that join to it and have no separator in them. -/
theorem split_eq_iff {separator : Nat} {text : Text} {pieces : List Text} (filled : pieces ≠ []) :
    split separator text = pieces ↔
      text = join separator pieces ∧ ∀ piece ∈ pieces, separator ∉ piece := by
  constructor
  · rintro rfl
    exact ⟨(join_split separator text).symm, fun piece member => not_mem_of_mem_split member⟩
  · rintro ⟨rfl, solid⟩
    exact split_join filled solid

end Text

end BlockExplorer
