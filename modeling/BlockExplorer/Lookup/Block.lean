import BlockExplorer.Chain.Decoding
import BlockExplorer.Lookup.Hash
import BlockExplorer.Node.Question
import BlockExplorer.Store.Fetch

/-!
Looking up blocks: by hash, by height, and the latest ones with their epochs. A block is shown with
the transactions of its index in index order. A decrypted transaction that is not stored yet is left
out; one that cannot be decoded has the general label.
-/

namespace BlockExplorer

/-- What blocks are read from. Without a connection the store cannot be read. -/
structure Sources where
  connection : Option Connection
  node : Node
  checksums : Checksums

namespace Sources

/-- The label of a stored transaction. One that cannot be decoded is counted. -/
def label (sources : Sources) (record : StoredTx) : Explore Text :=
  match record.decode sources.checksums with
  | .ok decoded => return Text.ofString (TxKind.label decoded.kind)
  | .error _ => do
      Explore.countDecodeFailure
      return Text.ofString (TxKind.label none)

/-- The summary of an index entry. A wrapped one is not looked at any closer. -/
def classify (sources : Sources) (entry : IndexEntry) : Explore (Option LabelledTx) :=
  match entry.kind with
  | .wrapper => return some ⟨Text.ofString EntryKind.wrapper.name, entry.hash⟩
  | .decrypted => do
      match ← Store.txRecord sources.connection entry.hash with
      | none => return none
      | some record =>
          let label ← sources.label record
          return some ⟨label, entry.hash⟩

def classifyAll (sources : Sources) : List IndexEntry → Explore (List (Option LabelledTx))
  | [] => return []
  | entry :: rest => do
      let first ← sources.classify entry
      let others ← sources.classifyAll rest
      return first :: others

def assemble (sources : Sources) (row : StoredBlock) : Explore Block := do
  let entries ← Store.txHashEntries sources.connection row.blockId
  let summaries ← sources.classifyAll entries
  return ⟨row.blockId, row.header, row.lastCommit, summaries.filterMap id⟩

def assembleSome (sources : Sources) : Option StoredBlock → Explore (Option Block)
  | none => return none
  | some row => some <$> sources.assemble row

def byHash (sources : Sources) (hash : Bytes) : Explore (Option Block) := do
  let row ← Store.blockByHash sources.connection hash
  sources.assembleSome row

def byId (sources : Sources) (id : Bytes) : Explore (Option Block) := do
  let row ← Store.blockById sources.connection id
  sources.assembleSome row

def byHashText (sources : Sources) (text : Text) : Explore (Option Block) :=
  match BlockHash.parse text with
  | .error fault => Explore.fail (.client fault)
  | .ok hash => sources.byHash hash

def byHeight (sources : Sources) (height : Int) : Explore (Option Block) :=
  if height < 0 then Explore.refuse .negativeHeight height
  else if maxHeight < height then Explore.refuse .heightTooGreat height
  else do
    let row ← Store.blockByHeight sources.connection height
    sources.assembleSome row

def annotate (sources : Sources) (row : StoredBlock) : Explore EpochBlock := do
  let block ← sources.assemble row
  let epoch ← sources.node.epoch block.header.height
  return ⟨block, epoch⟩

def annotateAll (sources : Sources) : List StoredBlock → Explore (List EpochBlock)
  | [] => return []
  | row :: rest => do
      let first ← sources.annotate row
      let others ← sources.annotateAll rest
      return first :: others

def last (sources : Sources) : Explore Latest := do
  let row ← Store.latestBlock sources.connection
  let block ← sources.annotate row
  return .last block

def page (sources : Sources) (count : Int) (offset : Option Int) : Explore Latest :=
  if count < 0 then Explore.refuse .negativeCount count
  else if offset.getD 0 < 0 then Explore.refuse .negativeOffset (offset.getD 0)
  else do
    let rows ← Store.latestBlocks sources.connection count offset
    let blocks ← sources.annotateAll rows
    return .page blocks

/-- The latest block, or a page of the latest blocks where a count is given. Without a count the
offset does not matter. -/
def latest (sources : Sources) (count offset : Option Int) : Explore Latest :=
  match count with
  | none => sources.last
  | some count => sources.page count offset

end Sources

end BlockExplorer
