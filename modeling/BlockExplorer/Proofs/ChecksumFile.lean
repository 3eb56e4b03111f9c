import BlockExplorer.Proofs.ProgramTable
import BlockExplorer.Proofs.Utf8

/-!
Loading the list of programs. Whatever stands where the list should be, loading it gives the
inverted table or a fault of the configuration, but for three kinds of files that nothing was
prepared for: bytes that spell no text, text that goes beyond a limit of the JSON reader, and an
entry whose file name is no text.
-/

namespace BlockExplorer

namespace ChecksumFile

/-- The file holds a text that is read as JSON with this result. Its line ends of every kind count
as line feeds. -/
def Reads (file : ChecksumFile) (result : Except Json.Fault Json) : Prop :=
  ∃ bytes text, file = .content bytes ∧ Utf.Spells bytes text ∧
    Json.parseText (Checksums.normalizeLines text) = result

def Lists (file : ChecksumFile) (programs : List (Text × Text)) : Prop :=
  file.Reads (.ok (.object (Checksums.listed programs)))

/-- The files that nothing was prepared for, each with the failure that it brings about. Of the
entries of a list the first one that is no program decides, so those before it are programs. -/
inductive Unforeseen : ChecksumFile → Failure → Prop
  | noText {bytes : Bytes} {fault : Utf.Fault} (refused : Utf.decodeUtf8 bytes = .error fault) :
      Unforeseen (.content bytes) (.notUnicode fault)
  | limit {file : ChecksumFile} {fault : Json.Fault} (stopped : file.Reads (.error fault))
      (wellFormed : fault.isSyntactic = false) : Unforeseen file (.unreadableDocument fault)
  | entry {file : ChecksumFile} {before : List (Text × Text)} {name : Text} {other : Json}
      {after : List (Text × Json)}
      (found : file.Reads (.ok (.object (Checksums.listed before ++ (name, other) :: after))))
      (programs : ∀ program ∈ before, ∃ checksum, Checksums.IsProgramFile program.2 checksum)
      (noText : ∀ filename, other ≠ .text filename) : Unforeseen file (.notText other.kind)

end ChecksumFile

namespace Checksums

/-- The table leads from each checksum to the program of the last entry whose file carries it. -/
def Inverts (checksums : Checksums) (programs : List (Text × Text)) : Prop :=
  ∀ digest program, checksums.lookup digest = some program ↔ LastProgram programs digest program

theorem Names.unique {name program other : Text} (names : Names name program)
    (again : Names name other) : other = program := by
  rcases names with rfl | ⟨rfl, plain⟩
  · rcases again with same | ⟨rfl, plain⟩
    · exact (List.append_cancel_right same).symm
    · exact absurd (List.suffix_append _ _) plain
  · rcases again with rfl | ⟨rfl, _⟩
    · exact absurd (List.suffix_append _ _) plain
    · rfl

theorem LastProgram.unique {programs : List (Text × Text)} {digest program other : Text}
    (last : LastProgram programs digest program) (again : LastProgram programs digest other) :
    other = program := by
  obtain ⟨before, name, filename, after, split, carries, names, later⟩ := last
  obtain ⟨first, title, file, rest, rfl, carried, titles, behind⟩ := again
  rcases List.append_eq_append_iff.mp split with ⟨between, rfl, tail⟩ | ⟨between, rfl, tail⟩
  · cases between with
    | nil =>
        cases tail
        exact names.unique titles
    | cons entry between =>
        cases tail
        exact absurd carries (behind (name, filename) (by simp))
  · cases between with
    | nil =>
        cases tail
        exact names.unique titles
    | cons entry between =>
        cases tail
        exact absurd carried (later (title, file) (by simp))

theorem inverts_of_invert {programs : List (Text × Text)} {checksums : Checksums}
    (accepted : invert (listed programs) = .ok checksums) : checksums.Inverts programs := by
  intro digest program
  refine ⟨last_of_lookup accepted, fun last => ?_⟩
  cases found : checksums.lookup digest with
  | some other => rw [last.unique (last_of_lookup accepted found)]
  | none =>
      have absent := (lookup_eq_none_iff accepted digest).mp found
      obtain ⟨before, name, filename, after, rfl, carries, _⟩ := last
      exact absurd carries (absent (name, filename) (List.mem_append_right _ List.mem_cons_self))

/-- An entry whose file name is no text stands behind programs only. -/
def MeetsNoText (members : List (Text × Json)) (failure : Failure) : Prop :=
  ∃ before name other after, members = listed before ++ (name, other) :: after ∧
    (∀ program ∈ before, ∃ checksum, IsProgramFile program.2 checksum) ∧
    (∀ filename, other ≠ .text filename) ∧ failure = .notText other.kind

theorem entry_of_no_text {name : Text} {other : Json}
    (noText : ∀ filename, other ≠ .text filename) :
    entry name other = .error (.notText other.kind) := by
  cases other with
  | text filename => exact absurd rfl (noText filename)
  | _ => rfl

theorem entry_of_program {name filename : Text}
    (formed : ∃ checksum, IsProgramFile filename checksum) :
    ∃ inverted, entry name (.text filename) = .ok inverted := by
  obtain ⟨digest, found⟩ := is_program_file_iff.mp formed
  exact ⟨(digest, programName name), entry_eq_ok_iff.mpr ⟨found, rfl⟩⟩

/-- An entry that is a program leaves the fault to those behind it. -/
theorem of_list_cons_of_program {name filename : Text} {rest : List (Text × Json)}
    {failure : Failure} (formed : ∃ checksum, IsProgramFile filename checksum)
    (failed : ofList rest = .error failure) :
    ofList ((name, .text filename) :: rest) = .error failure := by
  obtain ⟨inverted, accepted⟩ := entry_of_program formed
  rw [ofList, accepted]
  exact Collecting.monad_bind_eq_error_iff.mpr (.inr ⟨inverted, rfl,
    Collecting.monad_bind_eq_error_iff.mpr (.inl failed)⟩)

theorem of_list_of_meets_no_text {members : List (Text × Json)} {failure : Failure}
    (meets : MeetsNoText members failure) : ofList members = .error failure := by
  obtain ⟨before, name, other, after, rfl, programs, noText, rfl⟩ := meets
  induction before with
  | nil =>
      rw [listed, List.map_nil, List.nil_append, ofList, entry_of_no_text noText]
      rfl
  | cons program before induction =>
      obtain ⟨formed, others⟩ := List.forall_mem_cons.mp programs
      exact of_list_cons_of_program formed (induction others)

/-- Entries are all programs, or one of them is malformed, or one of them is no text. -/
theorem of_list_cases (members : List (Text × Json)) :
    (∃ programs, members = listed programs ∧
      ∀ program ∈ programs, ∃ checksum, IsProgramFile program.2 checksum) ∨
    (∃ fault, ofList members = .error (.configuration fault)) ∨
    ∃ failure, MeetsNoText members failure := by
  induction members with
  | nil => exact .inl ⟨[], rfl, List.forall_mem_nil _⟩
  | cons member rest induction =>
      obtain ⟨name, other⟩ := member
      by_cases noText : ∀ filename, other ≠ .text filename
      · exact .inr (.inr ⟨_, [], name, other, rest, rfl, List.forall_mem_nil _, noText, rfl⟩)
      push Not at noText
      obtain ⟨filename, rfl⟩ := noText
      by_cases formed : ∃ checksum, IsProgramFile filename checksum
      · rcases induction with ⟨programs, rfl, others⟩ | ⟨fault, failed⟩ |
          ⟨failure, before, title, found, after, rfl, others, noText, same⟩
        · exact .inl ⟨(name, filename) :: programs, rfl, List.forall_mem_cons.mpr ⟨formed, others⟩⟩
        · exact .inr (.inl ⟨fault, of_list_cons_of_program formed failed⟩)
        · exact .inr (.inr ⟨failure, (name, filename) :: before, title, found, after, rfl,
            List.forall_mem_cons.mpr ⟨formed, others⟩, noText, same⟩)
      · rw [is_program_file_iff] at formed
        cases found : checksum? filename with
        | some digest => exact absurd ⟨digest, found⟩ formed
        | none =>
            refine .inr (.inl ⟨.malformedEntry name filename, ?_⟩)
            rw [ofList, entry, found]
            rfl

theorem invert_of_programs {programs : List (Text × Text)}
    (formed : ∀ program ∈ programs, ∃ checksum, IsProgramFile program.2 checksum) :
    ∃ checksums, invert (listed programs) = .ok checksums := by
  cases inverted : invert (listed programs) with
  | ok checksums => exact ⟨checksums, rfl⟩
  | error failure =>
      obtain ⟨program, member, missing, _⟩ := invert_eq_error inverted
      obtain ⟨digest, found⟩ := is_program_file_iff.mp (formed program member)
      cases missing.symm.trans found

section Files

variable {path : Text} {file : ChecksumFile}

theorem load_of_document {document : Json} (reads : file.Reads (.ok document)) :
    load path file = ofDocument path document := by
  obtain ⟨bytes, text, rfl, spelled, parsed⟩ := reads
  simp only [load, Utf.decode_utf8_eq_ok_iff.mpr spelled, parsed]

theorem load_of_stopped {fault : Json.Fault} (reads : file.Reads (.error fault)) :
    load path file =
      if fault.isSyntactic then .error (.configuration (.malformedFile path fault))
      else .error (.unreadableDocument fault) := by
  obtain ⟨bytes, text, rfl, spelled, parsed⟩ := reads
  simp only [load, Utf.decode_utf8_eq_ok_iff.mpr spelled, parsed]

theorem load_of_members {members : List (Text × Json)} {failure : Failure}
    (reads : file.Reads (.ok (.object members))) (failed : ofList members = .error failure) :
    load path file = .error failure := by
  rw [load_of_document reads, ofDocument, invert, failed]
  rfl

theorem load_of_unforeseen {failure : Failure} (unforeseen : file.Unforeseen failure) :
    load path file = .error failure := by
  cases unforeseen with
  | noText refused => rw [load, refused]
  | limit stopped wellFormed => rw [load_of_stopped stopped, wellFormed, if_neg Bool.false_ne_true]
  | entry found programs noText =>
      exact load_of_members found
        (of_list_of_meets_no_text ⟨_, _, _, _, rfl, programs, noText, rfl⟩)

theorem load_of_lists {programs : List (Text × Text)} (lists : file.Lists programs)
    (formed : ∀ program ∈ programs, ∃ checksum, IsProgramFile program.2 checksum) :
    ∃ checksums, load path file = .ok checksums ∧ checksums.Inverts programs := by
  obtain ⟨checksums, accepted⟩ := invert_of_programs formed
  exact ⟨checksums, (load_of_document lists).trans accepted, inverts_of_invert accepted⟩

variable (path file)

/-- A file lists programs, or is refused, or was not foreseen. -/
theorem load_cases :
    (∃ programs, file.Lists programs ∧
      ∀ program ∈ programs, ∃ checksum, IsProgramFile program.2 checksum) ∨
    (∃ fault, load path file = .error (.configuration fault)) ∨
    ∃ failure, file.Unforeseen failure := by
  cases file with
  | missing => exact .inr (.inl ⟨_, rfl⟩)
  | directory => exact .inr (.inl ⟨_, rfl⟩)
  | content bytes =>
      cases decoded : Utf.decodeUtf8 bytes with
      | error fault => exact .inr (.inr ⟨_, .noText decoded⟩)
      | ok text =>
          have reads : (ChecksumFile.content bytes).Reads (Json.parseText (normalizeLines text)) :=
            ⟨bytes, text, rfl, Utf.decode_utf8_eq_ok_iff.mp decoded, rfl⟩
          cases parsed : Json.parseText (normalizeLines text) with
          | error fault =>
              rw [parsed] at reads
              cases syntactic : fault.isSyntactic with
              | true =>
                  refine .inr (.inl ⟨.malformedFile path fault, ?_⟩)
                  rw [load_of_stopped reads, syntactic, if_pos rfl]
              | false => exact .inr (.inr ⟨_, .limit reads syntactic⟩)
          | ok document =>
              rw [parsed] at reads
              cases document with
              | object members =>
                  rcases of_list_cases members with ⟨programs, rfl, formed⟩ | ⟨fault, failed⟩ |
                    ⟨failure, before, name, other, after, rfl, formed, noText, rfl⟩
                  · exact .inl ⟨programs, reads, formed⟩
                  · exact .inr (.inl ⟨fault, load_of_members reads failed⟩)
                  · exact .inr (.inr ⟨_, .entry reads formed noText⟩)
              | _ =>
                  refine .inr (.inl ⟨.notAnObject path, ?_⟩)
                  rw [load_of_document reads, ofDocument]
                  rintro members ⟨⟩

end Files

end Checksums

theorem ChecksumFile.Unforeseen.not_configuration {file : ChecksumFile} {failure : Failure}
    (unforeseen : file.Unforeseen failure) (fault : ConfigurationFault) :
    failure ≠ .configuration fault := by
  cases unforeseen <;> rintro ⟨⟩

namespace Json

open CodePoint

theorem take_digits_of_digits {digits : Text} (ascii : ∀ c ∈ digits, isAsciiDigit c = true) :
    takeDigits digits = (digits, []) := by
  induction digits with
  | nil => rfl
  | cons c rest induction =>
      obtain ⟨digit, others⟩ := List.forall_mem_cons.mp ascii
      rw [takeDigits, if_pos digit, induction others]

theorem take_whole_of_digits {digits : Text} (ascii : ∀ c ∈ digits, isAsciiDigit c = true) :
    takeWhole (0x31 :: digits) = some (0x31 :: digits, []) := by
  rw [takeWhole, if_neg (by decide), if_pos (by decide), take_digits_of_digits ascii]

theorem number_of_whole {text : Text} (unsigned : ∀ rest, text ≠ 0x2D :: rest)
    (whole : takeWhole text = some (text, [])) (long : Numeral.maxDigits < text.length) :
    number text = .error (.longInteger text.length) := by
  rw [number.eq_def]
  split
  next negative body signed =>
  have plain : (negative, body) = (false, text) := by
    rw [← signed]
    split
    · exact absurd rfl (unsigned _)
    · rfl
  cases plain
  simp only [whole, takeFraction, takePower, Option.getD_none, Option.isSome_none, Bool.or_self,
    Bool.false_eq_true, if_false]
  rw [if_pos long]

/-- Digits alone are an integer, however many they are. -/
theorem parse_of_long {digits : Text} (ascii : ∀ c ∈ digits, isAsciiDigit c = true)
    (long : Numeral.maxDigits < (0x31 :: digits).length) :
    parse (0x31 :: digits) = .error (.longInteger (0x31 :: digits).length) := by
  have start := skip_blanks_of_dense (show isJsonBlank 0x31 = false from rfl) digits
  have read (loop : Nat) : scalar loop (0x31 :: digits) =
      .error (.longInteger (0x31 :: digits).length) :=
    number_of_whole (by rintro rest ⟨⟩) (take_whole_of_digits ascii) long
  have found (loop depth : Nat) : value loop depth (0x31 :: digits) =
      .error (.longInteger (0x31 :: digits).length) := by
    cases depth <;> exact read loop
  simp only [parse, start, found]

theorem value_of_open (loop depth : Nat) (rest : Text) :
    value (loop + 1) depth (List.replicate (depth + 1) 0x5B ++ rest) = .error .deepArray := by
  induction depth with
  | zero => rfl
  | succ depth induction =>
      have start := skip_blanks_of_dense (show isJsonBlank 0x5B = false from rfl)
        (List.replicate depth 0x5B ++ rest)
      rw [List.replicate_succ, List.cons_append] at induction
      simp only [List.replicate_succ, List.cons_append, value, start, items, induction]
      rfl

/-- What stands behind the brackets is not looked at. -/
theorem parse_of_deep (rest : Text) :
    parse (List.replicate (maxDepth + 1) 0x5B ++ rest) = .error .deepArray := by
  have read := value_of_open (List.replicate (maxDepth + 1) 0x5B ++ rest).length maxDepth rest
  have start := skip_blanks_of_dense (show isJsonBlank 0x5B = false from rfl)
    (List.replicate maxDepth 0x5B ++ rest)
  rw [← List.cons_append, ← List.replicate_succ] at start
  simp only [parse, start, read]

theorem parse_text_of_unmarked {text : Text} (unmarked : ∀ rest, text ≠ 0xFEFF :: rest) :
    parseText text = parse text := by
  rw [parseText.eq_def]
  split
  · exact absurd rfl (unmarked _)
  · rfl

end Json

theorem Checksums.normalize_lines_append {before : Text} (plain : ∀ c ∈ before, c ≠ 0x0D)
    (rest : Text) : normalizeLines (before ++ rest) = before ++ normalizeLines rest := by
  induction before with
  | nil => rfl
  | cons c before induction =>
      obtain ⟨other, others⟩ := List.forall_mem_cons.mp plain
      rw [List.cons_append, normalizeLines.eq_def]
      split
      · next same => exact absurd (List.cons.inj same).1 other
      · next same => exact absurd (List.cons.inj same).1 other
      · next first tail _ _ same =>
          obtain ⟨rfl, rfl⟩ := List.cons.inj same
          rw [induction others, List.cons_append]
      · next same => cases same

theorem Checksums.normalize_lines_of_plain {text : Text} (plain : ∀ c ∈ text, c ≠ 0x0D) :
    normalizeLines text = text := by
  have kept := normalize_lines_append plain []
  rwa [normalizeLines, List.append_nil] at kept

namespace ChecksumFile

theorem reads_of_parse {text : Text} {result : Except Json.Fault Json}
    (scalar : ∀ c ∈ text, Utf.IsScalar c)
    (parsed : Json.parseText (Checksums.normalizeLines text) = result) :
    (content (Utf.encodeUtf8 text)).Reads result :=
  ⟨_, text, rfl, ⟨rfl, scalar⟩, parsed⟩

/-- A file of nothing but digits, of which there are more than an integer may have. -/
theorem unforeseen_of_long {digits : Text}
    (ascii : ∀ c ∈ digits, CodePoint.isAsciiDigit c = true)
    (long : Numeral.maxDigits < (0x31 :: digits).length) :
    (content (Utf.encodeUtf8 (0x31 :: digits))).Unforeseen
      (.unreadableDocument (.longInteger (0x31 :: digits).length)) := by
  have bounds : ∀ c ∈ 0x31 :: digits, 0x30 ≤ c ∧ c ≤ 0x39 := by
    refine List.forall_mem_cons.mpr ⟨by decide, fun c member => ?_⟩
    simpa [CodePoint.isAsciiDigit] using ascii c member
  have scalar : ∀ c ∈ 0x31 :: digits, Utf.IsScalar c := fun c member => by
    have := bounds c member
    exact ⟨by omega, by omega⟩
  have plain : ∀ c ∈ 0x31 :: digits, c ≠ 0x0D := fun c member => by
    have := bounds c member
    omega
  refine .limit (reads_of_parse scalar ?_) rfl
  rw [Checksums.normalize_lines_of_plain plain, Json.parse_text_of_unmarked (by rintro rest ⟨⟩),
    Json.parse_of_long ascii long]

/-- A file whose first brackets nest deeper than a document may, whatever follows them. -/
theorem unforeseen_of_deep {rest : Text} (scalar : ∀ c ∈ rest, Utf.IsScalar c) :
    (content (Utf.encodeUtf8 (List.replicate (Json.maxDepth + 1) 0x5B ++ rest))).Unforeseen
      (.unreadableDocument .deepArray) := by
  have brackets : ∀ c ∈ List.replicate (Json.maxDepth + 1) 0x5B, c = 0x5B :=
    fun c => List.eq_of_mem_replicate
  refine .limit (reads_of_parse (List.forall_mem_append.mpr ⟨fun c member => ?_, scalar⟩) ?_) rfl
  · rw [brackets c member]
    exact ⟨by decide, by decide⟩
  · rw [Checksums.normalize_lines_append, Json.parse_text_of_unmarked, Json.parse_of_deep]
    · rintro others same
      rw [List.replicate_succ, List.cons_append] at same
      cases same
    · intro c member
      rw [brackets c member]
      decide

end ChecksumFile

/-- Whatever stands where the list of programs should be, loading it gives a table or fails for a
fault of the configuration exactly if the file is none of the unforeseen ones; of these, each brings
about its own failure. A table is given exactly if the file lists programs, and is then the inverted
one. Bytes are unforeseen exactly if they spell no text. -/
theorem checksums_load_unless_unforeseen (path : Text) (file : ChecksumFile) :
    let result := Checksums.load path file
    (((∃ checksums, result = .ok checksums) ∨ ∃ fault, result = .error (.configuration fault)) ↔
        ¬∃ failure, file.Unforeseen failure) ∧
      (∀ failure, file.Unforeseen failure → result = .error failure) ∧
      ((∃ checksums, result = .ok checksums) ↔ ∃ programs, file.Lists programs ∧
        ∀ program ∈ programs, ∃ checksum, Checksums.IsProgramFile program.2 checksum) ∧
      (∀ checksums programs, result = .ok checksums → file.Lists programs →
        checksums.Inverts programs) ∧
      ((∃ fault, file.Unforeseen (.notUnicode fault)) ↔
        ∃ bytes, file = .content bytes ∧ ¬∃ text, Utf.Spells bytes text) := by
  intro result
  have cases := Checksums.load_cases path file
  refine ⟨⟨?_, ?_⟩, fun failure => Checksums.load_of_unforeseen, ⟨?_, ?_⟩, ?_, ⟨?_, ?_⟩⟩
  · rintro foreseen ⟨failure, unforeseen⟩
    have failed : result = .error failure := Checksums.load_of_unforeseen unforeseen
    rcases foreseen with ⟨checksums, loaded⟩ | ⟨fault, refused⟩
    · cases loaded.symm.trans failed
    · exact unforeseen.not_configuration fault (Except.error.inj (failed.symm.trans refused))
  · intro foreseen
    rcases cases with ⟨programs, lists, formed⟩ | refused | unforeseen
    · obtain ⟨checksums, loaded, _⟩ := Checksums.load_of_lists lists formed
      exact .inl ⟨checksums, loaded⟩
    · exact .inr refused
    · exact absurd unforeseen foreseen
  · rintro ⟨checksums, loaded⟩
    rcases cases with listed | ⟨fault, refused⟩ | ⟨failure, unforeseen⟩
    · exact listed
    · cases loaded.symm.trans refused
    · cases loaded.symm.trans (Checksums.load_of_unforeseen unforeseen)
  · rintro ⟨programs, lists, formed⟩
    obtain ⟨checksums, loaded, _⟩ := Checksums.load_of_lists lists formed
    exact ⟨checksums, loaded⟩
  · intro checksums programs loaded lists
    exact Checksums.inverts_of_invert ((Checksums.load_of_document lists).symm.trans loaded)
  · rintro ⟨fault, unforeseen⟩
    cases unforeseen with
    | noText refused => exact ⟨_, rfl, Utf.decode_utf8_fails_iff.mp ⟨fault, refused⟩⟩
  · rintro ⟨bytes, rfl, spellsNone⟩
    obtain ⟨fault, refused⟩ := Utf.decode_utf8_fails_iff.mpr spellsNone
    exact ⟨fault, .noText refused⟩

namespace ChecksumFile

def numbered : Text := Text.ofString "\x7b\"tx_bond.wasm\": 5\x7d"

theorem numbered_unforeseen :
    (content (Utf.encodeUtf8 numbered)).Unforeseen (.notText .int) := by
  have scalar : ∀ c ∈ numbered, Utf.IsScalar c := by
    intro c member
    have ascii : ∀ c ∈ numbered, c < 0x80 := by decide
    have := ascii c member
    exact ⟨by omega, by omega⟩
  have found : (content (Utf.encodeUtf8 numbered)).Reads (.ok (.object
      (Checksums.listed [] ++ (Text.ofString "tx_bond.wasm", .int 5) :: []))) :=
    reads_of_parse scalar rfl
  exact .entry found (List.forall_mem_nil _) (by rintro filename ⟨⟩)

end ChecksumFile

/-- A byte that begins no character, a number in place of a file name, an integer of 4301 digits and
981 brackets. -/
theorem checksums_load_unless_unforeseen_four_files :
    Checksums.load [] (.content [0xFF]) =
      .error (.notUnicode ⟨.utf8, 0, 1, 0xFF, .invalidStart⟩) ∧
    Checksums.load [] (.content (Utf.encodeUtf8 ChecksumFile.numbered)) =
      .error (.notText .int) ∧
    Checksums.load [] (.content (Utf.encodeUtf8 (0x31 :: List.replicate 4300 0x31))) =
      .error (.unreadableDocument (.longInteger 4301)) ∧
    Checksums.load [] (.content (Utf.encodeUtf8 (List.replicate 981 0x5B))) =
      .error (.unreadableDocument .deepArray) := by
  refine ⟨?_, ?_, ?_, ?_⟩
  · exact (checksums_load_unless_unforeseen [] _).2.1 _ (.noText rfl)
  · exact (checksums_load_unless_unforeseen [] _).2.1 _ ChecksumFile.numbered_unforeseen
  · have digits : ∀ c ∈ List.replicate 4300 0x31, CodePoint.isAsciiDigit c = true := by
      intro c member
      rw [List.eq_of_mem_replicate member]
      rfl
    have count : (0x31 :: List.replicate 4300 0x31).length = 4301 := by
      rw [List.length_cons, List.length_replicate]
    have unforeseen := ChecksumFile.unforeseen_of_long digits (by
      rw [count]
      exact Nat.lt_succ_self _)
    rw [count] at unforeseen
    exact (checksums_load_unless_unforeseen [] _).2.1 _ unforeseen
  · have unforeseen := ChecksumFile.unforeseen_of_deep (List.forall_mem_nil _)
    rw [List.append_nil] at unforeseen
    exact (checksums_load_unless_unforeseen [] _).2.1 _ unforeseen

end BlockExplorer
