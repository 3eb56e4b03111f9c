import BlockExplorer.Proofs.Columns
import Mathlib.Data.List.Nodup

/-!
What a row of the table of blocks says, column by column. Each column feeds one field of the block
and has its own check; a row is read as a block exactly where every column that is read passes its
check, and the block then holds what the checks gave, each in its own field. The columns of the
commit are read only where its height is not null.
-/

namespace BlockExplorer

open Collecting

namespace HeaderField

def Content : HeaderField → Type
  | .versionApp | .versionBlock => Option Int
  | .chainId => Text
  | .height => Nat
  | .time => BlockTime
  | .lastCommitHash | .dataHash | .validatorsHash | .nextValidatorsHash | .consensusHash
  | .appHash | .lastResultsHash | .evidenceHash | .proposerAddress => Option Bytes

def check : (field : HeaderField) → Value → Checked field.Content
  | .versionApp | .versionBlock => Checked.nullable Field.integer
  | .chainId => Field.text
  | .height => Field.natural
  | .time => Field.time
  | .lastCommitHash | .dataHash | .validatorsHash | .nextValidatorsHash | .consensusHash
  | .appHash | .lastResultsHash | .evidenceHash | .proposerAddress => Checked.nullable Field.bytes

end HeaderField

def BlockHeader.content (header : BlockHeader) : (field : HeaderField) → field.Content
  | .versionApp => header.versionApp
  | .versionBlock => header.versionBlock
  | .chainId => header.chainId
  | .height => header.height
  | .time => header.time
  | .lastCommitHash => header.lastCommitHash
  | .dataHash => header.dataHash
  | .validatorsHash => header.validatorsHash
  | .nextValidatorsHash => header.nextValidatorsHash
  | .consensusHash => header.consensusHash
  | .appHash => header.appHash
  | .lastResultsHash => header.lastResultsHash
  | .evidenceHash => header.evidenceHash
  | .proposerAddress => header.proposerAddress

def BlockHeader.ofContent (content : (field : HeaderField) → field.Content)
    (lastBlockId : BlockId) : BlockHeader where
  versionApp := content .versionApp
  versionBlock := content .versionBlock
  chainId := content .chainId
  height := content .height
  time := content .time
  lastBlockId := lastBlockId
  lastCommitHash := content .lastCommitHash
  dataHash := content .dataHash
  validatorsHash := content .validatorsHash
  nextValidatorsHash := content .nextValidatorsHash
  consensusHash := content .consensusHash
  appHash := content .appHash
  lastResultsHash := content .lastResultsHash
  evidenceHash := content .evidenceHash
  proposerAddress := content .proposerAddress

theorem BlockHeader.content_of_content (content : (field : HeaderField) → field.Content)
    (lastBlockId : BlockId) (field : HeaderField) :
    (BlockHeader.ofContent content lastBlockId).content field = content field := by
  cases field <;> rfl

namespace BlockColumn

def Content : BlockColumn → Type
  | .blockId => Bytes
  | .header field => field.Content
  | .lastBlockHash | .lastBlockPartsHash | .commitBlockHash | .commitPartsHash => Option Bytes
  | .lastBlockPartsTotal | .commitHeight | .commitRound | .commitPartsTotal => Int

/-- The check of a cell. The totals and the round are zero where the cell counts as absent. -/
def check : (column : BlockColumn) → Value → Checked column.Content
  | .blockId => Field.bytes
  | .header field => field.check
  | .lastBlockHash | .lastBlockPartsHash | .commitBlockHash | .commitPartsHash =>
      Checked.nullable Field.bytes
  | .lastBlockPartsTotal | .commitRound | .commitPartsTotal => fun cell => Field.integer cell.orZero
  | .commitHeight => Field.integer

def ofCommit : BlockColumn → Bool
  | .commitHeight | .commitRound | .commitBlockHash | .commitPartsTotal | .commitPartsHash => true
  | _ => false

end BlockColumn

/-- What a row says for the field that a column feeds; nothing where the column is not read. -/
def Row.content? (row : Row) (column : BlockColumn) : Option (Checked column.Content) :=
  match column.ofCommit, row.cell .commitHeight with
  | true, .null => none
  | _, _ => some (column.check (row.cell column))

def StoredBlock.content? (stored : StoredBlock) : (column : BlockColumn) → Option column.Content
  | .blockId => some stored.blockId
  | .header field => some (stored.header.content field)
  | .lastBlockHash => some stored.header.lastBlockId.hash
  | .lastBlockPartsTotal => some stored.header.lastBlockId.parts.total
  | .lastBlockPartsHash => some stored.header.lastBlockId.parts.hash
  | .commitHeight => stored.lastCommit.map LastCommit.height
  | .commitRound => stored.lastCommit.map LastCommit.round
  | .commitBlockHash => stored.lastCommit.map fun commit => commit.blockId.hash
  | .commitPartsTotal => stored.lastCommit.map fun commit => commit.blockId.parts.total
  | .commitPartsHash => stored.lastCommit.map fun commit => commit.blockId.parts.hash

theorem BlockColumn.name_injective : Function.Injective BlockColumn.name := by
  have distinct : (BlockColumn.all.map BlockColumn.name).Nodup := by decide
  intro first second same
  exact List.inj_on_of_nodup_map distinct (mem_all first) (mem_all second) same

theorem PartSetHeader.check_eq_valid_iff {total hash : Value} {parts : PartSetHeader} :
    PartSetHeader.check (some total) (some hash) = .valid parts ↔
      Field.integer total = .valid parts.total ∧
      Checked.nullable Field.bytes hash = .valid parts.hash := by
  simp only [PartSetHeader.check, Checked.optional, Checked.seq_eq_valid_iff,
    Checked.map_eq_valid_iff, Checked.within_eq_valid_iff]
  constructor
  · rintro ⟨_, hash, ⟨total, counted, rfl⟩, hashed, rfl⟩
    exact ⟨counted, hashed⟩
  · rintro ⟨counted, hashed⟩
    exact ⟨_, parts.hash, ⟨parts.total, counted, rfl⟩, hashed, rfl⟩

theorem BlockId.check_eq_valid_iff {hash : Value} {parts : PartSetHeader} {id : BlockId} :
    BlockId.check (some hash) (.valid parts) = .valid id ↔
      Checked.nullable Field.bytes hash = .valid id.hash ∧ parts = id.parts := by
  simp only [BlockId.check, Checked.optional, Checked.seq_eq_valid_iff, Checked.map_eq_valid_iff,
    Checked.within_eq_valid_iff, Checked.valid.injEq]
  constructor
  · rintro ⟨_, _, ⟨hash, hashed, rfl⟩, rfl, rfl⟩
    exact ⟨hashed, rfl⟩
  · rintro ⟨hashed, same⟩
    exact ⟨_, parts, ⟨id.hash, hashed, rfl⟩, rfl, by rw [same]⟩

theorem BlockId.of_row_eq_ok_iff {row : Row} {hash total partsHash : BlockColumn} {id : BlockId} :
    BlockId.ofRow row hash total partsHash = .ok id ↔
      Checked.nullable Field.bytes (row.cell hash) = .valid id.hash ∧
      Field.integer (row.cell total).orZero = .valid id.parts.total ∧
      Checked.nullable Field.bytes (row.cell partsHash) = .valid id.parts.hash := by
  unfold BlockId.ofRow
  simp only [monad_bind_eq_ok_iff, Checked.to_row_eq_ok_iff, PartSetHeader.check_eq_valid_iff,
    BlockId.check_eq_valid_iff]
  constructor
  · rintro ⟨parts, ⟨counted, partsHashed⟩, hashed, rfl⟩
    exact ⟨hashed, counted, partsHashed⟩
  · intro ⟨hashed, counted, partsHashed⟩
    exact ⟨id.parts, ⟨counted, partsHashed⟩, hashed, rfl⟩

theorem LastCommit.check_eq_valid_iff {height round : Value} {blockId : BlockId}
    {commit : LastCommit} :
    LastCommit.check (some height) (some round) (.valid blockId) = .valid commit ↔
      Field.integer height = .valid commit.height ∧ Field.integer round = .valid commit.round ∧
      blockId = commit.blockId := by
  simp only [LastCommit.check, Checked.required, Checked.seq_eq_valid_iff,
    Checked.map_eq_valid_iff, Checked.within_eq_valid_iff, Checked.valid.injEq]
  constructor
  · rintro ⟨_, _, ⟨_, round, ⟨height, high, rfl⟩, rounded, rfl⟩, rfl, rfl⟩
    exact ⟨high, rounded, rfl⟩
  · intro ⟨high, rounded, same⟩
    exact ⟨_, blockId, ⟨_, commit.round, ⟨commit.height, high, rfl⟩, rounded, rfl⟩, rfl,
      by rw [same]⟩

/-- No commit is read where its height is null, and otherwise one with the height of the row. -/
theorem LastCommit.of_row_eq_ok_iff {row : Row} {commit? : Option LastCommit} :
    LastCommit.ofRow row = .ok commit? ↔
      (row.cell .commitHeight = .null ∧ commit? = none) ∨
      (row.cell .commitHeight ≠ .null ∧ ∃ commit, commit? = some commit ∧
        Field.integer (row.cell .commitHeight) = .valid commit.height ∧
        Field.integer (row.cell .commitRound).orZero = .valid commit.round ∧
        BlockId.ofRow row .commitBlockHash .commitPartsTotal .commitPartsHash =
          .ok commit.blockId) := by
  unfold LastCommit.ofRow
  split
  · next null =>
      simp [null, eq_comm]
  · next null =>
      have there : row.cell .commitHeight ≠ .null := null
      simp only [monad_bind_eq_ok_iff, Checked.to_row_eq_ok_iff, LastCommit.check_eq_valid_iff]
      constructor
      · rintro ⟨_, read, commit, ⟨high, rounded, rfl⟩, same⟩
        cases same
        exact .inr ⟨there, commit, rfl, high, rounded, read⟩
      · rintro (⟨absent, -⟩ | ⟨-, commit, rfl, high, rounded, read⟩)
        · exact absurd absent there
        · exact ⟨commit.blockId, read, commit, ⟨high, rounded, rfl⟩, rfl⟩

theorem BlockHeader.maybe_eq_valid_iff {cell : HeaderField → Value} {α : Type}
    (check : Value → Checked α) (field : HeaderField) (content : Option α) :
    BlockHeader.maybe (fun field => some (cell field)) check field = .valid content ↔
      Checked.nullable check (cell field) = .valid content := by
  simp [BlockHeader.maybe, Checked.optional]

theorem BlockHeader.need_eq_valid_iff {cell : HeaderField → Value} {α : Type}
    (check : Value → Checked α) (field : HeaderField) (content : α) :
    BlockHeader.need (fun field => some (cell field)) check field = .valid content ↔
      check (cell field) = .valid content := by
  simp [BlockHeader.need, Checked.required]

/-- A header is read where each of its fields passes its check. -/
theorem BlockHeader.check_eq_valid_iff_content {cell : HeaderField → Value} {lastBlockId : BlockId}
    {header : BlockHeader} :
    BlockHeader.check (fun field => some (cell field)) (.valid lastBlockId) = .valid header ↔
      lastBlockId = header.lastBlockId ∧
      ∀ field : HeaderField, field.check (cell field) = .valid (header.content field) := by
  simp only [BlockHeader.check_eq_valid_iff, BlockHeader.maybe_eq_valid_iff,
    BlockHeader.need_eq_valid_iff, Checked.valid.injEq]
  constructor
  · intro ⟨versionApp, versionBlock, chainId, height, time, same, lastCommitHash, dataHash,
      validatorsHash, nextValidatorsHash, consensusHash, appHash, lastResultsHash, evidenceHash,
      proposerAddress⟩
    refine ⟨same, fun field => ?_⟩
    cases field <;> assumption
  · intro ⟨same, fields⟩
    exact ⟨fields .versionApp, fields .versionBlock, fields .chainId, fields .height, fields .time,
      same, fields .lastCommitHash, fields .dataHash, fields .validatorsHash,
      fields .nextValidatorsHash, fields .consensusHash, fields .appHash, fields .lastResultsHash,
      fields .evidenceHash, fields .proposerAddress⟩

theorem Row.need_eq_ok {row : Row} {column : BlockColumn} (present : (row.cell? column).isSome) :
    row.need column = .ok (row.cell column) := by
  obtain ⟨value, found⟩ := Option.isSome_iff_exists.mp present
  rw [Row.need, Row.cell, found]
  rfl

section

variable {row : Row} (present : ∀ column, (row.cell? column).isSome)

include present

theorem BlockHeader.of_row_eq_ok_iff {header : BlockHeader} :
    BlockHeader.ofRow row = .ok header ↔
      BlockId.ofRow row .lastBlockHash .lastBlockPartsTotal .lastBlockPartsHash =
        .ok header.lastBlockId ∧
      ∀ field : HeaderField,
        field.check (row.cell (.header field)) = .valid (header.content field) := by
  unfold BlockHeader.ofRow
  simp only [monad_bind_eq_ok_iff, Row.need_eq_ok (present _), Checked.to_row_eq_ok_iff,
    BlockHeader.check_eq_valid_iff_content]
  constructor
  · rintro ⟨_, -, _, -, _, -, lastBlockId, read, rfl, fields⟩
    exact ⟨read, fields⟩
  · intro ⟨read, fields⟩
    exact ⟨_, rfl, _, rfl, _, rfl, header.lastBlockId, read, rfl, fields⟩

theorem StoredBlock.of_row_eq_ok_iff_parts {stored : StoredBlock} :
    StoredBlock.ofRow row = .ok stored ↔
      Field.bytes (row.cell .blockId) = .valid stored.blockId ∧
      BlockHeader.ofRow row = .ok stored.header ∧ LastCommit.ofRow row = .ok stored.lastCommit := by
  rw [StoredBlock.of_row_eq_ok_iff, Row.need_eq_ok (present .blockId)]
  constructor
  · rintro ⟨headed, committed, _, ⟨⟩, named⟩
    exact ⟨named, headed, committed⟩
  · intro ⟨named, headed, committed⟩
    exact ⟨headed, committed, _, rfl, named⟩

end

namespace Row

variable {row : Row} {column : BlockColumn}

theorem content?_eq_none_iff :
    row.content? column = none ↔ column.ofCommit = true ∧ row.cell .commitHeight = .null := by
  unfold content?
  split
  · next commit null => simp [commit, null]
  · next unread =>
      simp only [reduceCtorEq, false_iff, not_and]
      exact unread

theorem content?_of_read (read : column.ofCommit = true → row.cell .commitHeight ≠ .null) :
    row.content? column = some (column.check (row.cell column)) := by
  unfold content?
  split
  · next commit null => exact absurd null (read commit)
  · rfl

theorem eq_check_of_content? {checked : Checked column.Content}
    (said : row.content? column = some checked) : column.check (row.cell column) = checked := by
  unfold content? at said
  split at said
  · cases said
  · exact Option.some.inj said

end Row

def Row.Valid (row : Row) : Prop :=
  ∀ column, ∀ checked ∈ row.content? column, ∃ content, checked = .valid content

theorem Row.Valid.check {row : Row} (valid : row.Valid) (column : BlockColumn)
    (read : column.ofCommit = true → row.cell .commitHeight ≠ .null) :
    ∃ content, column.check (row.cell column) = .valid content :=
  valid column _ (content?_of_read read)

def Row.Says (row : Row) (stored : StoredBlock) (column : BlockColumn) : Prop :=
  row.content? column = (stored.content? column).map .valid

namespace Row.Says

variable {row : Row} {stored : StoredBlock}

theorem check_eq_valid {column : BlockColumn} {content : column.Content}
    (said : row.Says stored column) (held : stored.content? column = some content) :
    column.check (row.cell column) = .valid content := by
  apply eq_check_of_content?
  rw [said, held]
  rfl

/-- The columns outside the commit say the id and the header. -/
theorem id_and_header_iff :
    (Field.bytes (row.cell .blockId) = .valid stored.blockId ∧
      BlockId.ofRow row .lastBlockHash .lastBlockPartsTotal .lastBlockPartsHash =
        .ok stored.header.lastBlockId ∧
      ∀ field : HeaderField,
        field.check (row.cell (.header field)) = .valid (stored.header.content field)) ↔
    ∀ column, column.ofCommit = false → row.Says stored column := by
  rw [BlockId.of_row_eq_ok_iff]
  constructor
  · intro ⟨named, ⟨hashed, counted, partsHashed⟩, fields⟩ column plain
    rw [Row.Says, content?_of_read (by simp [plain])]
    cases column with
    | blockId => exact congrArg some named
    | header field => exact congrArg some (fields field)
    | lastBlockHash => exact congrArg some hashed
    | lastBlockPartsTotal => exact congrArg some counted
    | lastBlockPartsHash => exact congrArg some partsHashed
    | commitHeight | commitRound | commitBlockHash | commitPartsTotal | commitPartsHash =>
        cases plain
  · intro said
    have hashed := (said .lastBlockHash rfl).check_eq_valid rfl
    have counted := (said .lastBlockPartsTotal rfl).check_eq_valid rfl
    have partsHashed := (said .lastBlockPartsHash rfl).check_eq_valid rfl
    exact ⟨(said .blockId rfl).check_eq_valid rfl, ⟨hashed, counted, partsHashed⟩,
      fun field => (said (.header field) rfl).check_eq_valid rfl⟩

/-- The columns of the commit say the commit, if there is one. -/
theorem last_commit_iff :
    LastCommit.ofRow row = .ok stored.lastCommit ↔
      ∀ column, column.ofCommit = true → row.Says stored column := by
  rw [LastCommit.of_row_eq_ok_iff]
  simp only [BlockId.of_row_eq_ok_iff]
  rcases stored with ⟨blockId, header, lastCommit⟩
  cases lastCommit with
  | none =>
      constructor
      · rintro (⟨null, -⟩ | ⟨-, _, ⟨⟩, -⟩) column commit
        rw [Row.Says, content?_eq_none_iff.mpr ⟨commit, null⟩]
        cases column with
        | commitHeight | commitRound | commitBlockHash | commitPartsTotal | commitPartsHash => rfl
        | blockId | header | lastBlockHash | lastBlockPartsTotal | lastBlockPartsHash =>
            cases commit
      · intro said
        exact .inl ⟨(content?_eq_none_iff.mp (said .commitHeight rfl)).2, rfl⟩
  | some commit =>
      constructor
      · rintro (⟨-, ⟨⟩⟩ | ⟨there, _, ⟨⟩, high, rounded, hashed, counted, partsHashed⟩) column known
        rw [Row.Says, content?_of_read fun _ => there]
        cases column with
        | commitHeight => exact congrArg some high
        | commitRound => exact congrArg some rounded
        | commitBlockHash => exact congrArg some hashed
        | commitPartsTotal => exact congrArg some counted
        | commitPartsHash => exact congrArg some partsHashed
        | blockId | header | lastBlockHash | lastBlockPartsTotal | lastBlockPartsHash =>
            cases known
      · intro said
        have there : row.cell .commitHeight ≠ .null := by
          intro null
          have height := said .commitHeight rfl
          rw [Row.Says, content?_eq_none_iff.mpr ⟨rfl, null⟩] at height
          cases height
        have hashed := (said .commitBlockHash rfl).check_eq_valid rfl
        have counted := (said .commitPartsTotal rfl).check_eq_valid rfl
        have partsHashed := (said .commitPartsHash rfl).check_eq_valid rfl
        exact .inr ⟨there, commit, rfl, (said .commitHeight rfl).check_eq_valid rfl,
          (said .commitRound rfl).check_eq_valid rfl, hashed, counted, partsHashed⟩

end Row.Says

section

variable {row : Row} {stored : StoredBlock} (present : ∀ column, (row.cell? column).isSome)

include present

/-- A row is read as a block where each column says what the block holds in its field. -/
theorem Store.read_block_eq_ok_iff_columns :
    readBlock row = .ok stored ↔ ∀ column, row.Says stored column := by
  rw [read_block_eq_ok_iff, StoredBlock.of_row_eq_ok_iff_parts present,
    BlockHeader.of_row_eq_ok_iff present, ← and_assoc, Row.Says.last_commit_iff,
    Row.Says.id_and_header_iff]
  constructor
  · intro ⟨plain, commit⟩ column
    cases known : column.ofCommit with
    | false => exact plain column known
    | true => exact commit column known
  · intro said
    exact ⟨fun column _ => said column, fun column _ => said column⟩

theorem BlockHeader.of_row_succeeds (valid : row.Valid) :
    ∃ header, BlockHeader.ofRow row = .ok header := by
  obtain ⟨hash, hashed⟩ := valid.check .lastBlockHash nofun
  obtain ⟨total, counted⟩ := valid.check .lastBlockPartsTotal nofun
  obtain ⟨partsHash, partsHashed⟩ := valid.check .lastBlockPartsHash nofun
  have headers : ∀ field : HeaderField, ∃ content,
      field.check (row.cell (.header field)) = .valid content := fun field =>
    valid.check (.header field) nofun
  choose content fields using headers
  refine ⟨BlockHeader.ofContent content ⟨hash, ⟨total, partsHash⟩⟩, ?_⟩
  rw [BlockHeader.of_row_eq_ok_iff present, BlockId.of_row_eq_ok_iff]
  simp only [BlockHeader.content_of_content]
  exact ⟨⟨hashed, counted, partsHashed⟩, fields⟩

omit present in
theorem LastCommit.of_row_succeeds (valid : row.Valid) :
    ∃ commit?, LastCommit.ofRow row = .ok commit? := by
  by_cases null : row.cell .commitHeight = .null
  · exact ⟨none, LastCommit.of_row_eq_ok_iff.mpr (.inl ⟨null, rfl⟩)⟩
  · obtain ⟨height, high⟩ := valid.check .commitHeight fun _ => null
    obtain ⟨round, rounded⟩ := valid.check .commitRound fun _ => null
    obtain ⟨hash, hashed⟩ := valid.check .commitBlockHash fun _ => null
    obtain ⟨total, counted⟩ := valid.check .commitPartsTotal fun _ => null
    obtain ⟨partsHash, partsHashed⟩ := valid.check .commitPartsHash fun _ => null
    have read : BlockId.ofRow row .commitBlockHash .commitPartsTotal .commitPartsHash =
        .ok ⟨hash, ⟨total, partsHash⟩⟩ :=
      BlockId.of_row_eq_ok_iff.mpr ⟨hashed, counted, partsHashed⟩
    refine ⟨some ⟨height, round, ⟨hash, ⟨total, partsHash⟩⟩⟩, LastCommit.of_row_eq_ok_iff.mpr ?_⟩
    exact .inr ⟨null, _, rfl, high, rounded, read⟩

/-- A row is read where each column that is read passes its check. -/
theorem Store.read_block_succeeds_iff : (∃ stored, readBlock row = .ok stored) ↔ row.Valid := by
  constructor
  · rintro ⟨stored, read⟩ column checked member
    have said := (read_block_eq_ok_iff_columns present).mp read column
    rw [Row.Says, Option.mem_def.mp member] at said
    obtain ⟨content, -, valid⟩ := Option.map_eq_some_iff.mp said.symm
    exact ⟨content, valid.symm⟩
  · intro valid
    obtain ⟨blockId, named⟩ := valid.check .blockId nofun
    obtain ⟨header, headed⟩ := BlockHeader.of_row_succeeds present valid
    obtain ⟨lastCommit, committed⟩ := LastCommit.of_row_succeeds valid
    have parts : StoredBlock.ofRow row = .ok ⟨blockId, header, lastCommit⟩ :=
      (StoredBlock.of_row_eq_ok_iff_parts present).mpr ⟨named, headed, committed⟩
    exact ⟨_, read_block_eq_ok_iff.mpr parts⟩

/-- The commit is left out where its height is null. -/
theorem Store.last_commit_eq_none_iff (read : readBlock row = .ok stored) :
    stored.lastCommit = none ↔ row.cell .commitHeight = .null := by
  have said := (read_block_eq_ok_iff_columns present).mp read .commitHeight
  rw [Row.Says, StoredBlock.content?] at said
  constructor
  · intro none
    rw [none] at said
    exact (Row.content?_eq_none_iff.mp said).2
  · intro null
    rw [Row.content?_eq_none_iff.mpr ⟨rfl, null⟩] at said
    exact Option.map_eq_none_iff.mp (Option.map_eq_none_iff.mp said.symm)

end

/-- A row with all columns is read as a block exactly where every column that is read passes its
check, and is refused as malformed otherwise. Each field of the block holds what the check of its
own column gave, so that rows are read as the same block exactly where all of their columns say the
same. -/
theorem rows_hold_blocks_by_column {row : Row} (present : ∀ column, (row.cell? column).isSome) :
    ((∃ stored, Store.readBlock row = .ok stored) ↔ row.Valid) ∧
    ((∀ stored, Store.readBlock row ≠ .ok stored) →
      ∃ fields, Store.readBlock row = .error (.store (.malformedRow .blocks fields))) ∧
    (∀ stored, Store.readBlock row = .ok stored ↔
      ∀ column, row.content? column = (stored.content? column).map .valid) ∧
    (∀ stored, Store.readBlock row = .ok stored →
      (stored.lastCommit = none ↔ row.cell .commitHeight = .null)) ∧
    (∀ other : Row, (∀ column, (other.cell? column).isSome) →
      ∀ stored similar, Store.readBlock row = .ok stored → Store.readBlock other = .ok similar →
        (stored = similar ↔ ∀ column, row.content? column = other.content? column)) ∧
    Function.Injective BlockColumn.name := by
  refine ⟨Store.read_block_succeeds_iff present, ?_,
    fun stored => Store.read_block_eq_ok_iff_columns present,
    fun stored => Store.last_commit_eq_none_iff present, ?_, BlockColumn.name_injective⟩
  · intro refused
    cases read : Store.readBlock row with
    | ok stored => exact absurd read (refused stored)
    | error failure =>
        obtain ⟨fields, same⟩ := Store.read_error_eq (RowFault.whole_block present) read
        exact ⟨fields, by rw [same]⟩
  · intro other complete stored similar read otherRead
    have said := (Store.read_block_eq_ok_iff_columns present).mp read
    have otherSaid := (Store.read_block_eq_ok_iff_columns complete).mp otherRead
    constructor
    · rintro rfl column
      exact (said column).trans (otherSaid column).symm
    · intro same
      have again : Store.readBlock other = .ok stored := by
        apply (Store.read_block_eq_ok_iff_columns complete).mpr
        intro column
        exact (same column).symm.trans (said column)
      rw [again] at otherRead
      exact Except.ok.inj otherRead

def Row.ofCells (cell : BlockColumn → Value) : Row :=
  BlockColumn.all.map fun column => (Text.ofString column.name, cell column)

theorem Row.cell?_of_cells (cell : BlockColumn → Value) (column : BlockColumn) :
    (Row.ofCells cell).cell? column = some (cell column) := by
  cases column with
  | header field => cases field <;> rfl
  | _ => rfl

/-- Null in every column that may be. -/
def Row.sparse (height : Int) : Row :=
  Row.ofCells fun
    | .blockId => .bytes [0xAB]
    | .header .chainId => .word "chain"
    | .header .height => .int height
    | .header .time => .word "noon"
    | _ => .null

/-- The same block in other words. What stands in the round of a commit without a height is not
read. -/
def Row.reworded : Row :=
  Row.ofCells fun
    | .blockId => .word "aB"
    | .header .chainId => .bytes [0x63, 0x68, 0x61, 0x69, 0x6E]
    | .header .height => .word " 5 "
    | .header .time => .word "noon"
    | .lastBlockPartsTotal => .bool false
    | .commitRound => .word "unread"
    | _ => .null

theorem rows_hold_blocks_by_column_reworded :
    (∀ column, (Row.sparse 5).content? column = Row.reworded.content? column) ∧
    ∃ fields,
      Store.readBlock (Row.sparse (-1)) = .error (.store (.malformedRow .blocks fields)) := by
  have columns : ∀ cell column, ((Row.ofCells cell).cell? column).isSome := by
    intro cell column
    rw [Row.cell?_of_cells]
    rfl
  constructor
  · have complete : ∀ column, ((Row.sparse 5).cell? column).isSome := columns _
    have same := (rows_hold_blocks_by_column complete).2.2.2.2.1
    exact (same Row.reworded (columns _) _ _ rfl rfl).mp rfl
  · apply (rows_hold_blocks_by_column (columns _)).2.1
    intro stored read
    cases read

end BlockExplorer
