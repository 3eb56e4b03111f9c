import BlockExplorer.Proofs.Rows

/-!
What the fields of a stored block owe to the cells of its row. A check of several fields succeeds
exactly when each field has its own check behind it.
-/

namespace BlockExplorer

theorem Checked.to_row_eq_ok_iff {α : Type} {found : Checked α} {content : α} :
    found.toRow = .ok content ↔ found = .valid content := by
  cases found <;> simp [Checked.toRow]

theorem BlockHeader.check_eq_valid_iff {cell : HeaderField → Option Value}
    {lastBlockId : Checked BlockId} {header : BlockHeader} :
    BlockHeader.check cell lastBlockId = .valid header ↔
      maybe cell Field.integer .versionApp = .valid header.versionApp ∧
      maybe cell Field.integer .versionBlock = .valid header.versionBlock ∧
      need cell Field.text .chainId = .valid header.chainId ∧
      need cell Field.natural .height = .valid header.height ∧
      need cell Field.time .time = .valid header.time ∧
      lastBlockId = .valid header.lastBlockId ∧
      maybe cell Field.bytes .lastCommitHash = .valid header.lastCommitHash ∧
      maybe cell Field.bytes .dataHash = .valid header.dataHash ∧
      maybe cell Field.bytes .validatorsHash = .valid header.validatorsHash ∧
      maybe cell Field.bytes .nextValidatorsHash = .valid header.nextValidatorsHash ∧
      maybe cell Field.bytes .consensusHash = .valid header.consensusHash ∧
      maybe cell Field.bytes .appHash = .valid header.appHash ∧
      maybe cell Field.bytes .lastResultsHash = .valid header.lastResultsHash ∧
      maybe cell Field.bytes .evidenceHash = .valid header.evidenceHash ∧
      maybe cell Field.bytes .proposerAddress = .valid header.proposerAddress := by
  rw [BlockHeader.check]
  constructor
  · intro valid
    simp only [Checked.seq_eq_valid_iff, Checked.map_eq_valid_iff] at valid
    aesop
  · intro fields
    simp only [Checked.seq_eq_valid_iff, Checked.map_eq_valid_iff]
    aesop

open Collecting in
theorem BlockHeader.height_of_row {row : Row} {header : BlockHeader}
    (found : BlockHeader.ofRow row = .ok header) :
    Field.natural (row.cell (.header .height)) = .valid header.height := by
  unfold BlockHeader.ofRow at found
  simp only [monad_bind_eq_ok_iff] at found
  obtain ⟨_, _, _, _, _, _, lastBlockId, _, checked⟩ := found
  have fields := BlockHeader.check_eq_valid_iff.mp (Checked.to_row_eq_ok_iff.mp checked)
  have height := fields.2.2.2.1
  rw [BlockHeader.need, Checked.required, Checked.within_eq_valid_iff] at height
  exact height

open Collecting in
/-- A stored block consists of the header and the commit of its row and of the bytes of its id. -/
theorem StoredBlock.of_row_eq_ok_iff {row : Row} {stored : StoredBlock} :
    StoredBlock.ofRow row = .ok stored ↔
      BlockHeader.ofRow row = .ok stored.header ∧ LastCommit.ofRow row = .ok stored.lastCommit ∧
      ∃ cell, row.need .blockId = .ok cell ∧ Field.bytes cell = .valid stored.blockId := by
  unfold StoredBlock.ofRow StoredBlock.check
  simp only [monad_bind_eq_ok_iff, Checked.to_row_eq_ok_iff, Checked.seq_eq_valid_iff,
    Checked.map_eq_valid_iff, Checked.required, Checked.within_eq_valid_iff]
  constructor
  · rintro ⟨header, headed, commit, committed, cell, present, _, _, ⟨_, _, ⟨id, read, rfl⟩, same,
      rfl⟩, again, rfl⟩
    cases same
    cases again
    exact ⟨headed, committed, cell, present, read⟩
  · rintro ⟨headed, committed, cell, present, read⟩
    exact ⟨stored.header, headed, stored.lastCommit, committed, cell, present, _, _,
      ⟨_, _, ⟨stored.blockId, read, rfl⟩, rfl, rfl⟩, rfl, rfl⟩

namespace Store

theorem read_block_eq_ok_iff {row : Row} {stored : StoredBlock} :
    readBlock row = .ok stored ↔ StoredBlock.ofRow row = .ok stored := by
  rw [readBlock]
  cases StoredBlock.ofRow row with
  | ok content => simp [read]
  | error fault => cases fault <;> simp [read]

variable {row : Row} {stored : StoredBlock}

theorem height_of_read_block {height : Int} (found : readBlock row = .ok stored)
    (integral : row.cell? (.header .height) = some (.int height)) :
    (stored.header.height : Int) = height := by
  have parts := StoredBlock.of_row_eq_ok_iff.mp (read_block_eq_ok_iff.mp found)
  have natural := BlockHeader.height_of_row parts.1
  rw [Row.cell, integral, Option.getD_some, Field.natural, Field.integer, Checked.bind] at natural
  split at natural
  · cases natural
  · next lower =>
      have same : height.toNat = stored.header.height := Checked.valid.inj natural
      omega

end Store

namespace Row

theorem height?_of_int_cell {row : Row} {height : Int}
    (integral : row.cell? (.header .height) = some (.int height)) : row.height? = some height := by
  rw [height?, integral]
  rfl

theorem height_of_int_cell {row : Row} {height : Int}
    (integral : row.cell? (.header .height) = some (.int height)) : row.height = height := by
  rw [Row.height, height?_of_int_cell integral, Option.getD_some]

end Row

end BlockExplorer
