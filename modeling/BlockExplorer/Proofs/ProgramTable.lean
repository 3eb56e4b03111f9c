import Mathlib.Data.List.Nodup
import BlockExplorer.Chain.Decoding
import BlockExplorer.Proofs.Collecting

/-!
From the list of programs to the kind of a transaction. The list is accepted exactly when every file
name has the form of a program's; then the code of a transaction leads to the program of the last
entry whose file carries it, and nowhere if there is none. A code is looked up only if it is not
empty, so an entry without a checksum is never found.
-/

namespace BlockExplorer

namespace Checksums

/-- The file name has three parts: the middle one is the checksum, the last one is `wasm`. -/
def IsProgramFile (filename checksum : Text) : Prop :=
  ∃ start, filename = Text.join 0x2E [start, checksum, wasm] ∧ 0x2E ∉ start ∧ 0x2E ∉ checksum

/-- The checksum in the file name is the digest but for the case of its letters. -/
def Carries (filename digest : Text) : Prop :=
  ∃ checksum, IsProgramFile filename checksum ∧ Text.toLower checksum = digest

def Names (name program : Text) : Prop :=
  name = program ++ 0x2E :: wasm ∨ name = program ∧ ¬0x2E :: wasm <:+ name

/-- The program of the last entry whose file carries the digest. -/
def LastProgram (programs : List (Text × Text)) (digest program : Text) : Prop :=
  ∃ before name filename after, programs = before ++ (name, filename) :: after ∧
    Carries filename digest ∧ Names name program ∧ ∀ entry ∈ after, ¬Carries entry.2 digest

def listed (programs : List (Text × Text)) : List (Text × Json) :=
  programs.map fun program => (program.1, .text program.2)

theorem checksum?_eq_some_iff {filename digest : Text} :
    checksum? filename = some digest ↔ Carries filename digest := by
  constructor
  · intro found
    unfold checksum? at found
    split at found
    · next start checksum last parts =>
        obtain ⟨joined, solid⟩ := (Text.split_eq_iff (List.cons_ne_nil _ _)).mp parts
        split at found
        · next same =>
            subst same
            exact ⟨checksum, ⟨start, joined, solid start (by simp), solid checksum (by simp)⟩,
              Option.some.inj found⟩
        · cases found
    · cases found
  · rintro ⟨checksum, ⟨start, joined, first, second⟩, rfl⟩
    have solid : ∀ part ∈ [start, checksum, wasm], 0x2E ∉ part := by
      simp only [List.mem_cons, List.not_mem_nil, or_false]
      rintro part (rfl | rfl | rfl)
      · exact first
      · exact second
      · decide
    have parts : Text.split 0x2E filename = [start, checksum, wasm] :=
      (Text.split_eq_iff (List.cons_ne_nil _ _)).mpr ⟨joined, solid⟩
    rw [checksum?, parts]
    exact if_pos rfl

theorem is_program_file_iff {filename : Text} :
    (∃ checksum, IsProgramFile filename checksum) ↔ ∃ digest, checksum? filename = some digest := by
  constructor
  · rintro ⟨checksum, form⟩
    exact ⟨_, checksum?_eq_some_iff.mpr ⟨checksum, form, rfl⟩⟩
  · rintro ⟨digest, found⟩
    obtain ⟨checksum, form, _⟩ := checksum?_eq_some_iff.mp found
    exact ⟨checksum, form⟩

theorem names_program_name (name : Text) : Names name (programName name) := by
  unfold programName
  split
  · next marked =>
      obtain ⟨program, rfl⟩ := List.isSuffixOf_iff_suffix.mp marked
      have short : (program ++ 0x2E :: wasm).length - 5 = program.length := by
        simp [wasm, Text.ofString]
      exact .inl (by rw [short, List.take_left])
  · next plain => exact .inr ⟨rfl, fun marked => plain (List.isSuffixOf_iff_suffix.mpr marked)⟩

theorem entry_eq_ok_iff {name filename : Text} {inverted : Text × Text} :
    entry name (.text filename) = .ok inverted ↔
      checksum? filename = some inverted.1 ∧ programName name = inverted.2 := by
  obtain ⟨digest, program⟩ := inverted
  rw [entry]
  cases checksum? filename <;> simp

theorem entry_eq_error {name filename : Text} {failure : Failure}
    (failed : entry name (.text filename) = .error failure) :
    checksum? filename = none ∧ failure = .configuration (.malformedEntry name filename) := by
  rw [entry] at failed
  cases found : checksum? filename with
  | some digest =>
      rw [found] at failed
      cases failed
  | none =>
      rw [found] at failed
      exact ⟨rfl, (Except.error.inj failed).symm⟩

theorem of_list_listed (programs : List (Text × Text)) :
    ofList (listed programs) = programs.mapM fun program => entry program.1 (.text program.2) := by
  induction programs with
  | nil => rfl
  | cons program rest induction =>
      rw [Collecting.map_m_cons_eq, ← induction]
      rfl

theorem invert_eq_ok_iff {programs : List (Text × Text)} {checksums : Checksums} :
    invert (listed programs) = .ok checksums ↔ ∃ entries, checksums = Dictionary.ofEntries entries ∧
      List.Forall₂ (fun program inverted => entry program.1 (.text program.2) = .ok inverted)
        programs entries := by
  rw [invert, Collecting.map_eq_ok_iff, of_list_listed]
  constructor
  · rintro ⟨entries, collected, rfl⟩
    exact ⟨entries, rfl, Collecting.map_m_eq_ok_iff.mp collected⟩
  · rintro ⟨entries, rfl, each⟩
    exact ⟨entries, Collecting.map_m_eq_ok_iff.mpr each, rfl⟩

theorem invert_eq_error {programs : List (Text × Text)} {failure : Failure}
    (failed : invert (listed programs) = .error failure) :
    ∃ program ∈ programs, checksum? program.2 = none ∧
      failure = .configuration (.malformedEntry program.1 program.2) := by
  rw [invert, Collecting.map_eq_error_iff, of_list_listed] at failed
  obtain ⟨program, member, fault⟩ := Collecting.exists_of_map_m_eq_error failed
  exact ⟨program, member, entry_eq_error fault⟩

theorem invert_fails_iff (programs : List (Text × Text)) :
    (∃ fault, invert (listed programs) = .error (.configuration fault)) ↔
      ∃ program ∈ programs, ¬∃ checksum, IsProgramFile program.2 checksum := by
  constructor
  · rintro ⟨fault, failed⟩
    obtain ⟨program, member, missing, _⟩ := invert_eq_error failed
    refine ⟨program, member, fun form => ?_⟩
    obtain ⟨digest, found⟩ := is_program_file_iff.mp form
    rw [missing] at found
    cases found
  · rintro ⟨program, member, malformed⟩
    cases inverted : invert (listed programs) with
    | error failure =>
        obtain ⟨other, _, _, rfl⟩ := invert_eq_error inverted
        exact ⟨_, rfl⟩
    | ok checksums =>
        obtain ⟨entries, _, each⟩ := invert_eq_ok_iff.mp inverted
        obtain ⟨inverse, _, found⟩ := Collecting.exists_origin each.flip member
        exact absurd (is_program_file_iff.mpr ⟨_, (entry_eq_ok_iff.mp found).1⟩) malformed

variable {programs : List (Text × Text)} {checksums : Checksums}

theorem forall₂_around {α β : Type} {relates : α → β → Prop} {items : List α}
    {before after : List β} {content : β}
    (paired : List.Forall₂ relates items (before ++ content :: after)) :
    ∃ first item last, items = first ++ item :: last ∧ relates item content ∧
      List.Forall₂ relates last after := by
  induction before generalizing items with
  | nil =>
      obtain ⟨item, last, head, tail, rfl⟩ := List.forall₂_cons_right_iff.mp paired
      exact ⟨[], item, last, rfl, head, tail⟩
  | cons other rest induction =>
      obtain ⟨skipped, behind, _, tail, rfl⟩ := List.forall₂_cons_right_iff.mp paired
      obtain ⟨first, item, last, rfl, related, later⟩ := induction tail
      exact ⟨skipped :: first, item, last, rfl, related, later⟩

theorem carries_iff_of_entries {entries : List (Text × Text)}
    (each : List.Forall₂ (fun program inverted => entry program.1 (.text program.2) = .ok inverted)
      programs entries) (digest : Text) :
    (∀ inverted ∈ entries, inverted.1 ≠ digest) ↔
      ∀ program ∈ programs, ¬Carries program.2 digest := by
  constructor
  · intro absent program member carries
    obtain ⟨inverted, present, found⟩ := Collecting.exists_origin each.flip member
    have same := (entry_eq_ok_iff.mp found).1
    rw [checksum?_eq_some_iff.mpr carries] at same
    exact absent inverted present (Option.some.inj same).symm
  · intro absent inverted member same
    obtain ⟨program, present, found⟩ := Collecting.exists_origin each member
    have carries := checksum?_eq_some_iff.mp (entry_eq_ok_iff.mp found).1
    exact absent program present (same ▸ carries)

theorem last_of_lookup (accepted : invert (listed programs) = .ok checksums)
    {digest program : Text} (found : checksums.lookup digest = some program) :
    LastProgram programs digest program := by
  obtain ⟨entries, rfl, each⟩ := invert_eq_ok_iff.mp accepted
  obtain ⟨before, after, rfl, later⟩ := Dictionary.lookup_of_entries_eq_some_iff.mp found
  obtain ⟨first, ⟨name, filename⟩, last, rfl, same, behind⟩ := forall₂_around each
  obtain ⟨carried, rfl⟩ := entry_eq_ok_iff.mp same
  exact ⟨first, name, filename, last, rfl, checksum?_eq_some_iff.mp carried,
    names_program_name name, (carries_iff_of_entries behind digest).mp later⟩

theorem lookup_eq_none_iff (accepted : invert (listed programs) = .ok checksums) (digest : Text) :
    checksums.lookup digest = none ↔ ∀ program ∈ programs, ¬Carries program.2 digest := by
  obtain ⟨entries, rfl, each⟩ := invert_eq_ok_iff.mp accepted
  rw [Dictionary.lookup_of_entries_eq_none_iff, carries_iff_of_entries each]

end Checksums

namespace TxKind

theorem program_injective {first second : TxKind} (same : first.program = second.program) :
    first = second := by
  have distinct : (all.map program).Nodup := by decide
  exact List.inj_on_of_nodup_map distinct first.mem_all second.mem_all same

/-- Each kind is found under its own program and no other. -/
theorem programs_lookup_eq_some_iff {program : Text} {kind : TxKind} :
    programs.lookup program = some kind ↔ program = Text.ofString kind.program := by
  have own : ∀ {found}, programs.lookup program = some found →
      program = Text.ofString found.program := by
    intro found present
    obtain ⟨before, after, split, _⟩ := List.lookup_eq_some_iff.mp present
    have member : (program, found) ∈ programs := split ▸ List.mem_append_right _ List.mem_cons_self
    obtain ⟨other, _, same⟩ := List.mem_map.mp member
    cases same
    rfl
  constructor
  · exact own
  · intro same
    cases present : programs.lookup program with
    | none =>
        have listed : (program, kind) ∈ programs :=
          List.mem_map.mpr ⟨kind, kind.mem_all, by rw [same]⟩
        exact absurd same (by simpa [same] using List.lookup_eq_none_iff.mp present _ listed)
    | some found =>
        have equal := (own present).symm.trans same
        rw [program_injective (Text.of_string_inj.mp equal)]

end TxKind

/-- What decoding a transaction must come to when the table of checksums is that of a list of
programs, and `kinds` are the kinds by program. -/
structure StoredTx.DecodesBy (record : StoredTx) (programs : List (Text × Text))
    (kinds : List (Text × TxKind)) (result : Except DecodeFault DecodedTx) : Prop where
  fails : (∃ fault, result = .error fault) ↔
    record.code = none ∨ record.code = some [] ∨
      ∃ code, record.code = some code ∧
        ∀ program ∈ programs, ¬Checksums.Carries program.2 (Hex.lower code)
  told : ∀ fault, result = .error fault →
    fault = .noCode record.hash ∧ (record.code = none ∨ record.code = some []) ∨
      ∃ code, fault = .unknownCode code record.hash ∧ record.code = some code
  found : ∀ decoded, result = .ok decoded →
    ∃ code, record.code = some code ∧
      Checksums.LastProgram programs (Hex.lower code) decoded.program ∧
      decoded.kind = kinds.lookup decoded.program ∧ decoded.data = record.data

namespace StoredTx

variable {programs : List (Text × Text)} {checksums : Checksums} {record : StoredTx}
  {kinds : List (Text × TxKind)}

theorem decodes_by_of_no_code (missing : record.code = none ∨ record.code = some []) :
    record.DecodesBy programs kinds (.error (.noCode record.hash)) where
  fails := ⟨fun _ => missing.imp_right .inl, fun _ => ⟨_, rfl⟩⟩
  told fault same := .inl ⟨(Except.error.inj same).symm, missing⟩
  found decoded same := by cases same

theorem decodes_by_of_unknown {code : Bytes} (coded : record.code = some code)
    (unknown : ∀ program ∈ programs, ¬Checksums.Carries program.2 (Hex.lower code)) :
    record.DecodesBy programs kinds (.error (.unknownCode code record.hash)) where
  fails := ⟨fun _ => .inr (.inr ⟨code, coded, unknown⟩), fun _ => ⟨_, rfl⟩⟩
  told fault same := .inr ⟨code, (Except.error.inj same).symm, coded⟩
  found decoded same := by cases same

theorem decodes_by_of_known {code : Bytes} {program : Text} (coded : record.code = some code)
    (filled : code ≠ []) (last : Checksums.LastProgram programs (Hex.lower code) program) :
    record.DecodesBy programs kinds (.ok ⟨kinds.lookup program, program, record.data⟩) where
  fails := by
    obtain ⟨before, name, filename, after, listed, carries, _⟩ := last
    constructor
    · rintro ⟨fault, same⟩
      cases same
    · rintro (none | empty | ⟨other, same, unknown⟩)
      · rw [coded] at none
        cases none
      · rw [coded] at empty
        exact absurd (Option.some.inj empty) filled
      · rw [coded] at same
        cases same
        have member : (name, filename) ∈ programs :=
          listed ▸ List.mem_append_right _ List.mem_cons_self
        exact absurd carries (unknown _ member)
  told fault same := by cases same
  found decoded same := by
    cases same
    exact ⟨code, coded, last, rfl, rfl⟩

theorem decode_with_decodes_by
    (accepted : Checksums.invert (Checksums.listed programs) = .ok checksums)
    (record : StoredTx) (kinds : List (Text × TxKind)) :
    record.DecodesBy programs kinds (record.decodeWith kinds checksums) := by
  unfold decodeWith
  split
  · next absent => exact decodes_by_of_no_code (.inl absent)
  · next empty => exact decodes_by_of_no_code (.inr empty)
  · next code filled coded =>
      split
      · next unknown =>
          exact decodes_by_of_unknown coded ((Checksums.lookup_eq_none_iff accepted _).mp unknown)
      · next program known =>
          exact decodes_by_of_known coded filled (Checksums.last_of_lookup accepted known)

end StoredTx

/-- A list of programs is refused exactly when a file name has not the form of a program's, and
otherwise leads from codes to programs: a transaction is decoded exactly if it has a code that one
of the files carries, as the program of the last such entry, with the kind of this program and the
data of the transaction. -/
theorem programs_found_by_checksum (programs : List (Text × Text)) :
    let inverted := Checksums.invert (Checksums.listed programs)
    ((∃ fault, inverted = .error (.configuration fault)) ↔
      ∃ program ∈ programs, ¬∃ checksum, Checksums.IsProgramFile program.2 checksum) ∧
    ((∃ checksums, inverted = .ok checksums) ↔
      ∀ program ∈ programs, ∃ checksum, Checksums.IsProgramFile program.2 checksum) ∧
    (∀ checksums, inverted = .ok checksums → ∀ record : StoredTx,
      record.DecodesBy programs TxKind.programs (record.decode checksums) ∧
      ∀ kinds, record.DecodesBy programs kinds (record.decodeWith kinds checksums)) ∧
    ∀ program kind,
      TxKind.programs.lookup program = some kind ↔ program = Text.ofString kind.program := by
  intro inverted
  have fails := Checksums.invert_fails_iff programs
  refine ⟨fails, ?_, fun checksums accepted record => ?_, fun program kind =>
    TxKind.programs_lookup_eq_some_iff⟩
  · constructor
    · rintro ⟨checksums, accepted⟩
      by_contra malformed
      push Not at malformed
      obtain ⟨program, member, unnamed⟩ := malformed
      obtain ⟨fault, failed⟩ := fails.mpr ⟨program, member, fun ⟨checksum, form⟩ =>
        unnamed checksum form⟩
      cases accepted.symm.trans failed
    · intro formed
      cases result : inverted with
      | ok checksums => exact ⟨checksums, rfl⟩
      | error failure =>
          obtain ⟨program, member, missing, _⟩ := Checksums.invert_eq_error result
          obtain ⟨digest, found⟩ := Checksums.is_program_file_iff.mp (formed program member)
          rw [missing] at found
          cases found
  · exact ⟨StoredTx.decode_with_decodes_by accepted record TxKind.programs,
      StoredTx.decode_with_decodes_by accepted record⟩

namespace DoubledChecksum

/-- Two files carry one checksum in different letter case, and a third has none. -/
def programs : List (Text × Text) :=
  [(Text.ofString "tx_bond.wasm", Text.ofString "tx_bond.AB.wasm"),
    (Text.ofString "tx_unbond.wasm", Text.ofString "tx_unbond.ab.wasm"),
    (Text.ofString "tx_ibc.wasm", Text.ofString "tx_ibc..wasm")]

def checksums : Checksums :=
  [(Text.ofString "ab", Text.ofString "tx_unbond"), ([], Text.ofString "tx_ibc")]

def transaction (code : Bytes) : StoredTx := ⟨[0xC], [1], .decrypted, some code, some [7]⟩

theorem inverted : Checksums.invert (Checksums.listed programs) = .ok checksums := by rfl

end DoubledChecksum

/-- The later program counts, and an empty code is not looked up. -/
theorem programs_found_by_checksum_doubled :
    Checksums.invert (Checksums.listed DoubledChecksum.programs) = .ok DoubledChecksum.checksums ∧
      Checksums.LastProgram DoubledChecksum.programs (Hex.lower [0xAB])
        (Text.ofString "tx_unbond") ∧
      ∃ fault,
        (DoubledChecksum.transaction []).decode DoubledChecksum.checksums = .error fault := by
  have decodes := (programs_found_by_checksum DoubledChecksum.programs).2.2.1 _
    DoubledChecksum.inverted
  have decoded : (DoubledChecksum.transaction [0xAB]).decode DoubledChecksum.checksums =
      .ok ⟨some .unbond, Text.ofString "tx_unbond", some [7]⟩ := by decide
  obtain ⟨code, coded, last, _⟩ := (decodes (DoubledChecksum.transaction [0xAB])).1.found _ decoded
  cases coded
  exact ⟨DoubledChecksum.inverted, last,
    (decodes (DoubledChecksum.transaction [])).1.fails.mpr (.inr (.inl rfl))⟩

end BlockExplorer
