import BlockExplorer.Node.Address
import BlockExplorer.Proofs.Collecting
import Mathlib.Data.List.TakeWhile

/-!
Which addresses of a node are accepted: those that lead through a scheme to a host that can be read
(`check_eq_ok_iff`).
-/

namespace BlockExplorer.Address

open Collecting

structure IsScheme (scheme : Text) : Prop where
  letter : ∃ first ∈ scheme.head?, isAsciiLetter first = true
  characters : ∀ c ∈ scheme, isSchemeCharacter c = true

def endsHost (c : Nat) : Bool := c = slash || c = 0x3F || c = 0x23

/-- The host is what stands behind the scheme and `://`. -/
def LeadsTo (url host : Text) : Prop :=
  ∃ scheme rest, clean url = scheme ++ mark ++ (host ++ rest) ∧ IsScheme scheme ∧
    (∀ c ∈ host, endsHost c = false) ∧ ∀ c ∈ rest.head?, endsHost c = true

/-- The name in the place of a host: what stands in brackets, with a port behind them at most, or
where no bracket opens, the text up to a colon. -/
inductive HasName : (place name : Text) → Prop
  | bracketed {name rest : Text} (inner : closeBracket ∉ name)
      (behind : rest = [] ∨ rest = [closeBracket] ∨ ∃ port, rest = closeBracket :: colon :: port) :
      HasName (openBracket :: (name ++ rest)) name
  | bare {name rest : Text} (unbracketed : openBracket ∉ name ++ rest) (inner : colon ∉ name)
      (behind : ∀ c ∈ rest.head?, c = colon) : HasName (name ++ rest) name

def IsBracketed (name : Text) : Prop :=
  if name.head? = some 0x76 then isFutureVersion name = true else isVersion6 name = true

/-- A host that is there, with brackets only around an address, and without characters that stand
for others. -/
structure IsHost (host : Text) : Prop where
  present : host ≠ []
  brackets : openBracket ∈ host ∨ closeBracket ∈ host →
    openBracket ∈ host ∧ closeBracket ∈ host ∧
      ∃ name, HasName (behindUser host) name ∧ IsBracketed name
  unambiguous : ∀ c ∈ host, c ∉ ambiguous

/-- An address that leads to a host. -/
def Complete (url : Text) : Prop := ∃ host, LeadsTo url host ∧ IsHost host

theorem take_while_eq_iff {keep : Nat → Bool} {text before behind : Text} :
    text.takeWhile keep = before ∧ text.drop before.length = behind ↔
      text = before ++ behind ∧ (∀ c ∈ before, keep c = true) ∧
        ∀ c ∈ behind.head?, keep c = false := by
  constructor
  · rintro ⟨rfl, rfl⟩
    have whole : text.takeWhile keep ++ text.dropWhile keep = text :=
      List.takeWhile_append_dropWhile
    have rest : text.drop (text.takeWhile keep).length = text.dropWhile keep := by
      calc text.drop (text.takeWhile keep).length
        _ = (text.takeWhile keep ++ text.dropWhile keep).drop (text.takeWhile keep).length := by
          rw [whole]
        _ = text.dropWhile keep := List.drop_left
    rw [rest]
    refine ⟨whole.symm, fun c member => List.mem_takeWhile_imp member, fun c first => ?_⟩
    have stopped := List.head?_dropWhile_not keep text
    rw [Option.mem_def.mp first] at stopped
    exact stopped
  · rintro ⟨rfl, kept, stopped⟩
    have none : behind.takeWhile keep = [] := by
      cases behind with
      | nil => rfl
      | cons c rest => exact List.takeWhile_cons_of_neg (by simp [stopped c rfl])
    rw [List.takeWhile_append_of_pos kept, none, List.append_nil]
    exact ⟨rfl, List.drop_left⟩

theorem is_scheme_iff {scheme : Text} :
    IsScheme scheme ↔
      ((scheme.head?.map isAsciiLetter).getD false && scheme.all isSchemeCharacter) = true := by
  constructor
  · rintro ⟨⟨first, head, letter⟩, characters⟩
    simp [Option.mem_def.mp head, letter, List.all_eq_true.mpr characters]
  · intro valid
    obtain ⟨letter, characters⟩ := Bool.and_eq_true_iff.mp valid
    refine ⟨?_, List.all_eq_true.mp characters⟩
    cases head : scheme.head? with
    | none => simp [head] at letter
    | some first => exact ⟨first, rfl, by simpa [head] using letter⟩

theorem colon_not_mem_scheme {scheme : Text} (valid : IsScheme scheme) :
    ∀ c ∈ scheme, (c ≠ colon : Bool) = true := by
  intro c member
  have known := valid.characters c member
  simp only [decide_eq_true_eq]
  rintro rfl
  cases known

theorem split_scheme_eq_iff {url scheme rest : Text} (present : scheme ≠ []) :
    splitScheme url = (scheme, rest) ↔ url = scheme ++ colon :: rest ∧ IsScheme scheme := by
  constructor
  · intro split
    unfold splitScheme at split
    simp only at split
    split at split
    · next c more behind =>
        split at split
        · next valid =>
            obtain ⟨whole, _, stopped⟩ := take_while_eq_iff.mp ⟨rfl, behind⟩
            have mark : c = colon := by simpa using stopped c rfl
            cases split
            rw [mark] at whole
            exact ⟨whole, is_scheme_iff.mpr valid⟩
        · exact absurd (congrArg Prod.fst split).symm present
    · exact absurd (congrArg Prod.fst split).symm present
  · rintro ⟨rfl, valid⟩
    obtain ⟨taken, behind⟩ := take_while_eq_iff.mpr
      ⟨(rfl : scheme ++ colon :: rest = _), colon_not_mem_scheme valid, by simp⟩
    simp only [splitScheme, taken, behind, is_scheme_iff.mp valid, if_true]

theorem host_eq_iff {rest name : Text} (present : name ≠ []) :
    host rest = name ↔ ∃ behind, rest = slash :: slash :: (name ++ behind) ∧
      (∀ c ∈ name, endsHost c = false) ∧ ∀ c ∈ behind.head?, endsHost c = true := by
  have ends : (fun c : Nat => !endsHost c) = fun c => c ≠ slash && c ≠ 0x3F && c ≠ 0x23 := by
    funext c
    simp [endsHost, Bool.not_or]
  constructor
  · intro found
    unfold host at found
    split at found
    · next text =>
        rw [← ends] at found
        obtain ⟨whole, kept, stopped⟩ := take_while_eq_iff.mp ⟨found, rfl⟩
        exact ⟨_, by rw [← whole], by simpa using kept, by simpa using stopped⟩
    · exact absurd found.symm present
  · rintro ⟨behind, rfl, kept, stopped⟩
    have goes : ∀ c ∈ name, (!endsHost c) = true := by simpa using kept
    have stops : ∀ c ∈ behind.head?, (!endsHost c) = false := by simpa using stopped
    obtain ⟨taken, -⟩ := take_while_eq_iff.mpr ⟨(rfl : name ++ behind = _), goes, stops⟩
    rw [host, ← ends]
    exact taken

theorem leads_to_iff {url scheme rest name : Text}
    (split : splitScheme (clean url) = (scheme, rest)) (present : name ≠ []) :
    LeadsTo url name ↔ scheme ≠ [] ∧ host rest = name := by
  constructor
  · rintro ⟨start, behind, whole, valid, kept, stopped⟩
    have some : start ≠ [] := by
      rintro rfl
      obtain ⟨_, head, _⟩ := valid.letter
      cases head
    have same : splitScheme (clean url) = (start, slash :: slash :: (name ++ behind)) :=
      (split_scheme_eq_iff some).mpr ⟨by rw [whole]; simp [mark], valid⟩
    cases split.symm.trans same
    exact ⟨some, (host_eq_iff present).mpr ⟨behind, rfl, kept, stopped⟩⟩
  · rintro ⟨some, found⟩
    obtain ⟨whole, valid⟩ := (split_scheme_eq_iff some).mp split
    obtain ⟨behind, rfl, kept, stopped⟩ := (host_eq_iff present).mp found
    exact ⟨scheme, behind, by rw [whole]; simp [mark], valid, kept, stopped⟩

theorem cut_eq_iff {separator : Nat} {text before behind : Text} :
    cut separator text = (before, behind) ↔
      ∃ rest, text = before ++ rest ∧ separator ∉ before ∧
        (∀ c ∈ rest.head?, c = separator) ∧ rest.drop 1 = behind := by
  have solid : ∀ piece : Text, (∀ c ∈ piece, decide (c ≠ separator) = true) ↔
      separator ∉ piece := by
    intro piece
    simp only [decide_eq_true_eq]
    exact ⟨fun kept member => kept separator member rfl, fun absent c member same =>
      absent (same ▸ member)⟩
  constructor
  · intro split
    obtain ⟨taken, dropped⟩ := Prod.mk.inj split
    obtain ⟨whole, kept, stopped⟩ := take_while_eq_iff.mp ⟨taken, rfl⟩
    refine ⟨_, whole, (solid before).mp kept, by simpa using stopped, ?_⟩
    rw [taken] at dropped
    rw [List.drop_drop, dropped]
  · rintro ⟨rest, rfl, absent, stopped, rfl⟩
    obtain ⟨taken, left⟩ := take_while_eq_iff.mpr
      ⟨(rfl : before ++ rest = _), (solid before).mpr absent, by simpa using stopped⟩
    rw [cut, taken, ← List.drop_drop, left]

/-- Behind the name in brackets, nothing stands but a port. -/
theorem behind_name_iff {rest : Text} (ends : ∀ c ∈ rest.head?, c = closeBracket) :
    (rest.drop 1 = [] ∨ (rest.drop 1).head? = some colon) ↔
      rest = [] ∨ rest = [closeBracket] ∨ ∃ port, rest = closeBracket :: colon :: port := by
  cases rest with
  | nil => simp
  | cons c port =>
      cases ends c rfl
      cases port with
      | nil => simp
      | cons next others => simp

theorem cut_self (separator : Nat) (rest : Text) : cut separator (separator :: rest) = ([], rest) :=
  cut_eq_iff.mpr ⟨separator :: rest, rfl, List.not_mem_nil, by simp, rfl⟩

theorem bracketed_name_of_has_name {authority name : Text}
    (named : HasName (behindUser authority) name) : bracketedName authority = .ok name := by
  rw [bracketedName]
  generalize behindUser authority = place at named
  cases named with
  | @bracketed _ rest inner behind =>
      have opened : (openBracket :: (name ++ rest)).contains openBracket = true := by simp
      have ends : ∀ c ∈ rest.head?, c = closeBracket := by
        rcases behind with rfl | rfl | ⟨port, rfl⟩ <;> simp
      have named := cut_eq_iff.mpr ⟨rest, (rfl : name ++ rest = _), inner, ends, rfl⟩
      simp only [opened, if_true, cut_self, named]
      refine if_neg ?_
      rcases (behind_name_iff ends).mpr behind with none | port
      · rw [none]
        decide
      · rw [port]
        simp
  | @bare _ rest unbracketed inner behind =>
      have unopened : (name ++ rest).contains openBracket = false := by simpa using unbracketed
      have named := cut_eq_iff.mpr ⟨rest, (rfl : name ++ rest = _), inner, behind, rfl⟩
      simp only [unopened, Bool.false_eq_true, if_false, named]

theorem has_name_of_bracketed_name {authority name : Text}
    (read : bracketedName authority = .ok name) : HasName (behindUser authority) name := by
  rw [bracketedName] at read
  generalize behindUser authority = place at read ⊢
  cases opened : place.contains openBracket with
  | false =>
      simp only [opened, Bool.false_eq_true, if_false, Except.ok.injEq] at read
      obtain ⟨rest, rfl, inner, behind, -⟩ := cut_eq_iff.mp (Prod.ext read rfl)
      exact .bare (by simpa using opened) inner behind
  | true =>
      simp only [opened, if_true] at read
      obtain ⟨before, behind, first⟩ : ∃ before behind, cut openBracket place = (before, behind) :=
        ⟨_, _, rfl⟩
      obtain ⟨found, port, second⟩ : ∃ found port, cut closeBracket behind = (found, port) :=
        ⟨_, _, rfl⟩
      simp only [first, second] at read
      obtain ⟨rest, rfl, absent, starts, dropped⟩ := cut_eq_iff.mp first
      obtain ⟨last, rfl, inner, ends, rfl⟩ := cut_eq_iff.mp second
      obtain rfl : rest = openBracket :: (found ++ last) := by
        cases rest with
        | nil => exact absurd (by simpa using opened) absent
        | cons c more => rw [starts c rfl, ← dropped, List.drop_one, List.tail_cons]
      split at read
      · cases read
      · next placed =>
          cases read
          simp only [Bool.or_eq_true, Bool.not_eq_true', Bool.and_eq_true, decide_eq_true_eq,
            not_or, not_and, Bool.not_eq_false, List.isEmpty_iff] at placed
          obtain ⟨rfl, allowed⟩ := placed
          refine .bracketed inner ((behind_name_iff ends).mp ?_)
          by_cases none : last.drop 1 = []
          · exact .inl none
          · exact .inr (not_not.mp (allowed (by simpa using none)))

theorem bracketed_name_eq_ok_iff {authority name : Text} :
    bracketedName authority = .ok name ↔ HasName (behindUser authority) name :=
  ⟨has_name_of_bracketed_name, bracketed_name_of_has_name⟩

/-- An address of version 6 has colons in it, and one of version 4 has none. -/
theorem is_version4_of_is_version6 {name : Text} (six : isVersion6 name = true) :
    isVersion4 name = false := by
  refine Bool.eq_false_iff.mpr fun four => ?_
  have colonless : colon ∉ name := by
    intro member
    rw [← Text.join_split 0x2E name] at member
    rcases Text.mem_of_mem_join member with same | ⟨part, known, inside⟩
    · cases same
    simp only [isVersion4, Bool.and_eq_true, List.all_eq_true] at four
    have octet := four.2 part known
    simp only [isOctet, Bool.and_eq_true, List.all_eq_true] at octet
    have digit := octet.1.1.1.2 colon inside
    cases digit
  have solid : colon ∉ name.takeWhile (· ≠ 0x25) := fun member =>
    colonless ((List.takeWhile_prefix _).subset member)
  unfold isVersion6 at six
  simp only [Text.split_of_not_mem solid] at six
  split at six
  · simp at six
  · cases six

theorem check_bracketed_eq_ok_iff {name : Text} :
    checkBracketed name = .ok () ↔ IsBracketed name := by
  rw [checkBracketed, IsBracketed]
  split
  · split
    · next future => exact iff_of_true rfl future
    · next future => exact iff_of_false nofun future
  · split
    · next four =>
        refine iff_of_false nofun fun six => ?_
        rw [is_version4_of_is_version6 six] at four
        cases four
    · split
      · next six => exact iff_of_true rfl six
      · next six => exact iff_of_false nofun six

theorem check_brackets_eq_ok_iff {host : Text} :
    checkBrackets host = .ok () ↔ (openBracket ∈ host ∨ closeBracket ∈ host →
      openBracket ∈ host ∧ closeBracket ∈ host ∧
        ∃ name, HasName (behindUser host) name ∧ IsBracketed name) := by
  have opens : host.contains openBracket = true ↔ openBracket ∈ host := List.contains_iff_mem
  have closes : host.contains closeBracket = true ↔ closeBracket ∈ host := List.contains_iff_mem
  rw [checkBrackets, ← opens, ← closes]
  cases host.contains openBracket <;> cases host.contains closeBracket
  · simp
  · simp
  · simp
  · simp only [monad_bind_eq_ok_iff, bracketed_name_eq_ok_iff, check_bracketed_eq_ok_iff]
    simp

theorem check_ambiguity_iff {host : Text} :
    checkAmbiguity host = .ok () ↔ ∀ c ∈ host, c ∉ ambiguous := by
  rw [checkAmbiguity]
  split
  · next found =>
      obtain ⟨c, member, known⟩ := List.any_eq_true.mp found
      have inside : c ∈ ambiguous := by simpa using known
      exact iff_of_false nofun fun clear => clear c member inside
  · next clear =>
      refine iff_of_true rfl fun c member inside => clear (List.any_eq_true.mpr ⟨c, member, ?_⟩)
      simpa using inside

theorem check_eq_ok_iff {url : Text} : check url = .ok () ↔ Complete url := by
  cases split : splitScheme (clean url) with
  | mk scheme rest =>
      have steps : check url = (checkBrackets (host rest) >>= fun _ =>
          checkAmbiguity (host rest) >>= fun _ =>
            if scheme.isEmpty || (host rest).isEmpty then .error .incomplete else .ok ()) := by
        rw [check, split]
        rfl
      rw [steps]
      constructor
      · intro accepted
        obtain ⟨_, brackets, accepted⟩ := monad_bind_eq_ok_iff.mp accepted
        obtain ⟨_, clear, accepted⟩ := monad_bind_eq_ok_iff.mp accepted
        split at accepted
        · cases accepted
        · next whole =>
            obtain ⟨some, present⟩ : scheme ≠ [] ∧ host rest ≠ [] := by simpa using whole
            exact ⟨host rest, (leads_to_iff split present).mpr ⟨some, rfl⟩, present,
              check_brackets_eq_ok_iff.mp brackets, check_ambiguity_iff.mp clear⟩
      · rintro ⟨name, leads, present, brackets, clear⟩
        obtain ⟨some, rfl⟩ := (leads_to_iff split present).mp leads
        rw [check_brackets_eq_ok_iff.mpr brackets, check_ambiguity_iff.mpr clear]
        exact if_neg (by simpa using ⟨some, present⟩)

example : Complete (Text.ofString "http://[::1]:26657") := check_eq_ok_iff.mp (by decide)

/-- An address with the mark in it is taken as it stands, without slashes at the end. -/
theorem of_text_eq_ok_iff {text : Text} (marked : hasMark text = true) :
    (∃ address, ofText text = .ok address) ↔ Complete text := by
  rw [← check_eq_ok_iff, ofText]
  simp only [marked, if_true]
  cases check text with
  | error fault => exact iff_of_false nofun nofun
  | ok => exact iff_of_true ⟨_, rfl⟩ rfl

end BlockExplorer.Address
