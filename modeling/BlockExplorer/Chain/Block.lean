import BlockExplorer.Chain.Transaction

/-!
Blocks: the header, the commit to the block before, the block as it is stored, and the block as it
is shown with its transactions and the epoch of its height. Each comes with the check that reads it
from a record and with its written form, in which byte strings are upper-case hexadecimal text.
-/

namespace BlockExplorer

structure PartSetHeader where
  total : Int
  hash : Option Bytes
  deriving DecidableEq, Repr

structure BlockId where
  hash : Option Bytes
  parts : PartSetHeader
  deriving DecidableEq, Repr

structure BlockHeader where
  versionApp : Option Int
  versionBlock : Option Int
  chainId : Text
  height : Nat
  time : BlockTime
  lastBlockId : BlockId
  lastCommitHash : Option Bytes
  dataHash : Option Bytes
  validatorsHash : Option Bytes
  nextValidatorsHash : Option Bytes
  consensusHash : Option Bytes
  appHash : Option Bytes
  lastResultsHash : Option Bytes
  evidenceHash : Option Bytes
  proposerAddress : Option Bytes
  deriving DecidableEq, Repr

structure LastCommit where
  height : Int
  round : Int
  blockId : BlockId
  deriving DecidableEq, Repr

structure StoredBlock where
  blockId : Bytes
  header : BlockHeader
  lastCommit : Option LastCommit
  deriving DecidableEq, Repr

structure Block where
  blockId : Bytes
  header : BlockHeader
  lastCommit : Option LastCommit
  transactions : List LabelledTx
  deriving DecidableEq, Repr

/-- A block with its transactions and the epoch of its height. -/
structure EpochBlock where
  block : Block
  epoch : Nat
  deriving DecidableEq, Repr

/-- The answer to a question for the latest blocks: the last one, or a page, latest first. -/
inductive Latest where
  | last (block : EpochBlock)
  | page (blocks : List EpochBlock)
  deriving DecidableEq, Repr

inductive HeaderField where
  | versionApp
  | versionBlock
  | chainId
  | height
  | time
  | lastCommitHash
  | dataHash
  | validatorsHash
  | nextValidatorsHash
  | consensusHash
  | appHash
  | lastResultsHash
  | evidenceHash
  | proposerAddress
  deriving DecidableEq, Repr

def HeaderField.name : HeaderField → String
  | .versionApp => "version_app"
  | .versionBlock => "version_block"
  | .chainId => "chain_id"
  | .height => "height"
  | .time => "time"
  | .lastCommitHash => "last_commit_hash"
  | .dataHash => "data_hash"
  | .validatorsHash => "validators_hash"
  | .nextValidatorsHash => "next_validators_hash"
  | .consensusHash => "consensus_hash"
  | .appHash => "app_hash"
  | .lastResultsHash => "last_results_hash"
  | .evidenceHash => "evidence_hash"
  | .proposerAddress => "proposer_address"

namespace BlockTime

def toText : BlockTime → Text
  | .instant time => Text.ofString time.toText
  | .written text => text

def toValue : BlockTime → Value
  | .instant time => .time time
  | .written text => .text text

def settled (time : BlockTime) : BlockTime := .written time.toText

end BlockTime

namespace PartSetHeader

def empty : PartSetHeader := ⟨0, none⟩

def check (total hash : Option Value) : Checked PartSetHeader :=
  PartSetHeader.mk <$> Checked.optional "total" 0 Field.integer total
    <*> Checked.optional "hash" none (Checked.nullable Field.bytes) hash

def ofValue : Value → Checked PartSetHeader :=
  Checked.recordOf fun field => check (field "total") (field "hash")

def toValue (parts : PartSetHeader) : Value :=
  .named [("total", .int parts.total), ("hash", Value.ofOption .hex parts.hash)]

end PartSetHeader

namespace BlockId

def empty : BlockId := ⟨none, PartSetHeader.empty⟩

def check (hash : Option Value) (parts : Checked PartSetHeader) : Checked BlockId :=
  BlockId.mk <$> Checked.optional "hash" none (Checked.nullable Field.bytes) hash <*> parts

def ofValue : Value → Checked BlockId :=
  Checked.recordOf fun field =>
    check (field "hash")
      (Checked.optional "parts" PartSetHeader.empty PartSetHeader.ofValue (field "parts"))

def toValue (id : BlockId) : Value :=
  .named [("hash", Value.ofOption .hex id.hash), ("parts", id.parts.toValue)]

end BlockId

namespace BlockHeader

def need {α : Type} (cell : HeaderField → Option Value) (check : Value → Checked α)
    (field : HeaderField) : Checked α :=
  Checked.required field.name check (cell field)

def maybe {α : Type} (cell : HeaderField → Option Value) (check : Value → Checked α)
    (field : HeaderField) : Checked (Option α) :=
  Checked.optional field.name none (Checked.nullable check) (cell field)

def check (cell : HeaderField → Option Value) (lastBlockId : Checked BlockId) :
    Checked BlockHeader :=
  BlockHeader.mk <$> maybe cell Field.integer .versionApp
    <*> maybe cell Field.integer .versionBlock
    <*> need cell Field.text .chainId
    <*> need cell Field.natural .height
    <*> need cell Field.time .time
    <*> lastBlockId
    <*> maybe cell Field.bytes .lastCommitHash
    <*> maybe cell Field.bytes .dataHash
    <*> maybe cell Field.bytes .validatorsHash
    <*> maybe cell Field.bytes .nextValidatorsHash
    <*> maybe cell Field.bytes .consensusHash
    <*> maybe cell Field.bytes .appHash
    <*> maybe cell Field.bytes .lastResultsHash
    <*> maybe cell Field.bytes .evidenceHash
    <*> maybe cell Field.bytes .proposerAddress

def ofValue : Value → Checked BlockHeader :=
  Checked.recordOf fun field =>
    check (fun name => field name.name)
      (Checked.optional "last_block_id" BlockId.empty BlockId.ofValue (field "last_block_id"))

def toValue (header : BlockHeader) : Value :=
  .named
    [("version_app", Value.ofOption .int header.versionApp),
      ("version_block", Value.ofOption .int header.versionBlock),
      ("chain_id", .text header.chainId),
      ("height", .int header.height),
      ("time", header.time.toValue),
      ("last_block_id", header.lastBlockId.toValue),
      ("last_commit_hash", Value.ofOption .hex header.lastCommitHash),
      ("data_hash", Value.ofOption .hex header.dataHash),
      ("validators_hash", Value.ofOption .hex header.validatorsHash),
      ("next_validators_hash", Value.ofOption .hex header.nextValidatorsHash),
      ("consensus_hash", Value.ofOption .hex header.consensusHash),
      ("app_hash", Value.ofOption .hex header.appHash),
      ("last_results_hash", Value.ofOption .hex header.lastResultsHash),
      ("evidence_hash", Value.ofOption .hex header.evidenceHash),
      ("proposer_address", Value.ofOption .hex header.proposerAddress)]

def settled (header : BlockHeader) : BlockHeader := { header with time := header.time.settled }

end BlockHeader

namespace LastCommit

def check (height round : Option Value) (blockId : Checked BlockId) : Checked LastCommit :=
  LastCommit.mk <$> Checked.required "height" Field.integer height
    <*> Checked.required "round" Field.integer round
    <*> blockId

def ofValue : Value → Checked LastCommit :=
  Checked.recordOf fun field =>
    check (field "height") (field "round")
      (Checked.optional "block_id" BlockId.empty BlockId.ofValue (field "block_id"))

def toValue (commit : LastCommit) : Value :=
  .named
    [("height", .int commit.height), ("round", .int commit.round),
      ("block_id", commit.blockId.toValue)]

end LastCommit

namespace StoredBlock

def check (blockId : Option Value) (header : Checked BlockHeader)
    (lastCommit : Checked (Option LastCommit)) : Checked StoredBlock :=
  StoredBlock.mk <$> Checked.required "block_id" Field.bytes blockId <*> header <*> lastCommit

def ofValue : Value → Checked StoredBlock :=
  Checked.recordOf fun field =>
    check (field "block_id") (Checked.required "header" BlockHeader.ofValue (field "header"))
      (Checked.optional "last_commit" none (Checked.nullable LastCommit.ofValue)
        (field "last_commit"))

def toValue (row : StoredBlock) : Value :=
  .named
    [("block_id", .hex row.blockId), ("header", row.header.toValue),
      ("last_commit", Value.ofOption LastCommit.toValue row.lastCommit)]

def settled (row : StoredBlock) : StoredBlock := { row with header := row.header.settled }

end StoredBlock

namespace Block

def check (field : String → Option Value) : Checked Block :=
  Block.mk <$> Checked.required "block_id" Field.bytes (field "block_id")
    <*> Checked.required "header" BlockHeader.ofValue (field "header")
    <*> Checked.optional "last_commit" none (Checked.nullable LastCommit.ofValue)
      (field "last_commit")
    <*> Checked.optional "tx_hashes" [] (Checked.listOf LabelledTx.ofValue) (field "tx_hashes")

def ofValue : Value → Checked Block := Checked.recordOf check

def members (block : Block) : List (String × Value) :=
  [("block_id", .hex block.blockId), ("header", block.header.toValue),
    ("last_commit", Value.ofOption LastCommit.toValue block.lastCommit),
    ("tx_hashes", .list (block.transactions.map LabelledTx.toValue))]

def toValue (block : Block) : Value := .named block.members

def settled (block : Block) : Block := { block with header := block.header.settled }

end Block

namespace EpochBlock

def check (field : String → Option Value) : Checked EpochBlock :=
  EpochBlock.mk <$> Block.check field
    <*> Checked.required "epoch" Field.natural (field "epoch")

def ofValue : Value → Checked EpochBlock := Checked.recordOf check

def toValue (annotated : EpochBlock) : Value :=
  .named (annotated.block.members ++ [("epoch", .int annotated.epoch)])

def settled (annotated : EpochBlock) : EpochBlock :=
  { annotated with block := annotated.block.settled }

end EpochBlock

namespace Latest

def lastTag : String := "last_block"

def pageTag : String := "latest_blocks"

def tag (expected : String) : Value → Checked Unit
  | .text found =>
      if found = Text.ofString expected then .valid ()
      else .refuse (if Text.isUnicode found then .wrongTag else .malformedText)
  | _ => .refuse .wrongTag

def checkLast (field : String → Option Value) : Checked Latest :=
  (fun _ block => .last block) <$> Checked.optional "kind" () (tag lastTag) (field "kind")
    <*> Checked.required "block" EpochBlock.ofValue (field "block")

def checkPage (field : String → Option Value) : Checked Latest :=
  (fun _ blocks => .page blocks) <$> Checked.optional "kind" () (tag pageTag) (field "kind")
    <*> Checked.optional "blocks" [] (Checked.listOf EpochBlock.ofValue) (field "blocks")

/-- Either answer. Here the tag decides and must be there; faults are reported under it. -/
def ofValue : Value → Checked Latest
  | .record members =>
      match Value.member? "kind" members with
      | none => .refuse .noTag
      | some (.text found) =>
          if found = Text.ofString lastTag then
            (checkLast fun name => Value.member? name members).within (.field lastTag)
          else if found = Text.ofString pageTag then
            (checkPage fun name => Value.member? name members).within (.field pageTag)
          else .refuse .unknownTag
      | some _ => .refuse .unknownTag
  | _ => .refuse .notTagged

def toValue : Latest → Value
  | .last block => .named [("kind", .word lastTag), ("block", block.toValue)]
  | .page blocks =>
      .named [("kind", .word pageTag), ("blocks", .list (blocks.map EpochBlock.toValue))]

def settled : Latest → Latest
  | .last block => .last block.settled
  | .page blocks => .page (blocks.map EpochBlock.settled)

end Latest

end BlockExplorer
