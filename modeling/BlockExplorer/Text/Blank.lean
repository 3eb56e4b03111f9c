import BlockExplorer.Text.CodePoint

/-!
Blank characters and trimming. Three sets are in use: the full set that trims what people type,
Unicode's own `White_Space`, which trims stored numbers, and the ASCII set that may separate pairs
of hexadecimal digits. Each contains the next but for the ASCII set, which both contain.
-/

namespace BlockExplorer

namespace CodePoint

/-- Unicode's `White_Space` property together with the four information separators. -/
def isBlank (c : Nat) : Bool :=
  (0x09 ≤ c && c ≤ 0x0D) || (0x1C ≤ c && c ≤ 0x20) || c == 0x85 || c == 0xA0 || c == 0x1680 ||
    (0x2000 ≤ c && c ≤ 0x200A) || c == 0x2028 || c == 0x2029 || c == 0x202F || c == 0x205F ||
    c == 0x3000

/-- Unicode's `White_Space` property. -/
def isWhiteSpace (c : Nat) : Bool := isBlank c && !(0x1C ≤ c && c ≤ 0x1F)

def isAsciiBlank (c : Nat) : Bool := (0x09 ≤ c && c ≤ 0x0D) || c == 0x20

def isJsonBlank (c : Nat) : Bool := c == 0x20 || c == 0x09 || c == 0x0A || c == 0x0D

theorem is_blank_of_is_white_space {c : Nat} (h : isWhiteSpace c = true) : isBlank c = true := by
  simp [isWhiteSpace] at h
  exact h.1

theorem is_white_space_of_is_ascii_blank {c : Nat} (h : isAsciiBlank c = true) :
    isWhiteSpace c = true := by
  simp [isAsciiBlank] at h
  simp [isWhiteSpace, isBlank]
  omega

theorem is_blank_of_is_ascii_blank {c : Nat} (h : isAsciiBlank c = true) : isBlank c = true :=
  is_blank_of_is_white_space (is_white_space_of_is_ascii_blank h)

end CodePoint

namespace Text

def trimStart (blank : Nat → Bool) (text : Text) : Text := text.dropWhile blank

def trimEnd (blank : Nat → Bool) (text : Text) : Text :=
  (text.reverse.dropWhile blank).reverse

def trim (blank : Nat → Bool) (text : Text) : Text := trimEnd blank (trimStart blank text)

@[simp] theorem trim_nil (blank : Nat → Bool) : trim blank [] = [] := rfl

theorem trim_start_of_head {blank : Nat → Bool} {c : Nat} (rest : Text)
    (solid : blank c = false) : trimStart blank (c :: rest) = c :: rest := by
  simp [trimStart, solid]

theorem trim_start_eq_iff {blank : Nat → Bool} {text rest : Text} :
    trimStart blank text = rest ↔ ∃ before, text = before ++ rest ∧
      (∀ c ∈ before, blank c = true) ∧ ∀ c ∈ rest.head?, blank c = false := by
  induction text with
  | nil => cases rest <;> simp [trimStart]
  | cons c text induction =>
      by_cases solid : blank c = true
      · have skipped : trimStart blank (c :: text) = trimStart blank text := by
          simp [trimStart, solid]
        rw [skipped, induction]
        constructor
        · rintro ⟨before, rfl, blanks, stopped⟩
          exact ⟨c :: before, rfl, by simpa using ⟨solid, blanks⟩, stopped⟩
        · rintro ⟨before, whole, blanks, stopped⟩
          cases before with
          | nil =>
              cases whole
              simp [solid] at stopped
          | cons d before =>
              obtain ⟨rfl, rfl⟩ := List.cons.inj whole
              exact ⟨before, rfl, fun d member => blanks d (List.mem_cons_of_mem c member), stopped⟩
      · rw [trim_start_of_head text (Bool.not_eq_true _ ▸ solid)]
        constructor
        · rintro rfl
          exact ⟨[], rfl, by simp, by simpa using solid⟩
        · rintro ⟨before, whole, blanks, -⟩
          cases before with
          | nil => exact whole
          | cons d before =>
              obtain ⟨rfl, -⟩ := List.cons.inj whole
              exact absurd (blanks c List.mem_cons_self) solid

theorem trim_end_eq_iff {blank : Nat → Bool} {text rest : Text} :
    trimEnd blank text = rest ↔ ∃ after, text = rest ++ after ∧
      (∀ c ∈ after, blank c = true) ∧ ∀ c ∈ rest.getLast?, blank c = false := by
  have turned : trimEnd blank text = rest ↔ trimStart blank text.reverse = rest.reverse :=
    List.reverse_eq_iff
  rw [turned, trim_start_eq_iff, List.head?_reverse]
  constructor
  · rintro ⟨before, whole, blanks, stopped⟩
    have forth : text = rest ++ before.reverse := by
      rw [← List.reverse_reverse text, whole, List.reverse_append, List.reverse_reverse]
    exact ⟨before.reverse, forth, by simpa using blanks, stopped⟩
  · rintro ⟨after, rfl, blanks, stopped⟩
    exact ⟨after.reverse, List.reverse_append, by simpa using blanks, stopped⟩

/-- What is left by trimming neither begins nor ends with a blank. -/
theorem trim_eq_iff {blank : Nat → Bool} {text core : Text} :
    trim blank text = core ↔ ∃ before after, text = before ++ core ++ after ∧
      (∀ c ∈ before, blank c = true) ∧ (∀ c ∈ after, blank c = true) ∧
      (∀ c ∈ core.head?, blank c = false) ∧ ∀ c ∈ core.getLast?, blank c = false := by
  rw [trim, trim_end_eq_iff]
  constructor
  · rintro ⟨after, started, behind, ends⟩
    obtain ⟨before, rfl, blanks, stopped⟩ := trim_start_eq_iff.mp started
    refine ⟨before, after, (List.append_assoc _ _ _).symm, blanks, behind, ?_, ends⟩
    cases core with
    | nil => simp
    | cons c core => exact stopped
  · rintro ⟨before, after, rfl, blanks, behind, starts, ends⟩
    cases core with
    | nil =>
        have gone : trimStart blank (before ++ [] ++ after) = [] := by
          refine trim_start_eq_iff.mpr ⟨before ++ after, by simp, ?_, by simp⟩
          intro c member
          exact (List.mem_append.mp member).elim (blanks c) (behind c)
        exact ⟨[], gone, by simp, by simp⟩
    | cons c core =>
        refine ⟨after, trim_start_eq_iff.mpr ⟨before, List.append_assoc _ _ _, blanks, ?_⟩, behind,
          ends⟩
        simpa using starts

theorem trim_trim (blank : Nat → Bool) (text : Text) :
    trim blank (trim blank text) = trim blank text := by
  obtain ⟨before, after, -, -, -, starts, ends⟩ := trim_eq_iff.mp (rfl : trim blank text = _)
  exact trim_eq_iff.mpr ⟨[], [], by simp, by simp, by simp, starts, ends⟩

theorem mem_of_mem_trim {blank : Nat → Bool} {text : Text} {c : Nat}
    (member : c ∈ trim blank text) : c ∈ text := by
  obtain ⟨before, after, whole, -⟩ := trim_eq_iff.mp (rfl : trim blank text = _)
  rw [whole]
  exact List.mem_append_left _ (List.mem_append_right _ member)

end Text

end BlockExplorer
