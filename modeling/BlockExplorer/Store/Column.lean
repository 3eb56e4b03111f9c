import BlockExplorer.Chain.Block

/-!
The columns of the table of blocks, and the block that a row stands for. Three header columns and
the block id must be there; any other column that is not there counts as null. The commit is read
only where its height is not null.
-/

namespace BlockExplorer

inductive BlockColumn where
  | blockId
  | header (field : HeaderField)
  | lastBlockHash
  | lastBlockPartsTotal
  | lastBlockPartsHash
  | commitHeight
  | commitRound
  | commitBlockHash
  | commitPartsTotal
  | commitPartsHash
  deriving DecidableEq, Repr

namespace BlockColumn

def name : BlockColumn → String
  | .blockId => "block_id"
  | .header field => "header_" ++ field.name
  | .lastBlockHash => "header_last_block_id_hash"
  | .lastBlockPartsTotal => "header_last_block_id_parts_header_total"
  | .lastBlockPartsHash => "header_last_block_id_parts_header_hash"
  | .commitHeight => "commit_height"
  | .commitRound => "commit_round"
  | .commitBlockHash => "commit_block_id_hash"
  | .commitPartsTotal => "commit_block_id_parts_header_total"
  | .commitPartsHash => "commit_block_id_parts_header_hash"

def all : List BlockColumn :=
  [.blockId, .header .versionApp, .header .versionBlock, .header .chainId, .header .height,
    .header .time, .lastBlockHash, .lastBlockPartsTotal, .lastBlockPartsHash,
    .header .lastCommitHash, .header .dataHash, .header .validatorsHash,
    .header .nextValidatorsHash, .header .consensusHash, .header .appHash,
    .header .lastResultsHash, .header .evidenceHash, .header .proposerAddress, .commitHeight,
    .commitRound, .commitBlockHash, .commitPartsTotal, .commitPartsHash]

theorem mem_all (column : BlockColumn) : column ∈ all := by
  cases column with
  | header field => cases field <;> decide
  | _ => decide

end BlockColumn

inductive RowFault where
  | missingColumn (name : String)
  | invalid (errors : List FieldError)
  deriving Repr

namespace Row

def cell? (row : Row) (column : BlockColumn) : Option Value := Value.member? column.name row

def cell (row : Row) (column : BlockColumn) : Value := (row.cell? column).getD .null

def need (row : Row) (column : BlockColumn) : Except RowFault Value :=
  match row.cell? column with
  | some value => .ok value
  | none => .error (.missingColumn column.name)

end Row

def Checked.toRow {α : Type} : Checked α → Except RowFault α
  | .valid content => .ok content
  | .invalid errors => .error (.invalid errors)

/-- A block id from its three columns. A total that counts as absent is zero. The parts are checked
before the id is. -/
def BlockId.ofRow (row : Row) (hash total partsHash : BlockColumn) : Except RowFault BlockId := do
  let parts ← (PartSetHeader.check (some (row.cell total).orZero) (some (row.cell partsHash))).toRow
  (BlockId.check (some (row.cell hash)) (.valid parts)).toRow

def BlockHeader.ofRow (row : Row) : Except RowFault BlockHeader := do
  let _ ← row.need (.header .chainId)
  let _ ← row.need (.header .height)
  let _ ← row.need (.header .time)
  let lastBlockId ← BlockId.ofRow row .lastBlockHash .lastBlockPartsTotal .lastBlockPartsHash
  (BlockHeader.check (fun field => some (row.cell (.header field))) (.valid lastBlockId)).toRow

/-- The commit of a row. A round that counts as absent is zero. -/
def LastCommit.ofRow (row : Row) : Except RowFault (Option LastCommit) :=
  match row.cell .commitHeight with
  | .null => .ok none
  | height => do
      let blockId ← BlockId.ofRow row .commitBlockHash .commitPartsTotal .commitPartsHash
      let commit ←
        (LastCommit.check (some height) (some (row.cell .commitRound).orZero)
          (.valid blockId)).toRow
      .ok (some commit)

def StoredBlock.ofRow (row : Row) : Except RowFault StoredBlock := do
  let header ← BlockHeader.ofRow row
  let lastCommit ← LastCommit.ofRow row
  let blockId ← row.need .blockId
  (StoredBlock.check (some blockId) (.valid header) (.valid lastCommit)).toRow

end BlockExplorer
