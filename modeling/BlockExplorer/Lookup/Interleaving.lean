import BlockExplorer.Lookup.Turns
import BlockExplorer.Lookup.World

/-!
Looking up blocks side by side. The blocks of a page take one step at a time: a block first gets its
index, then the summary of one entry behind another in any order, then its epoch; between two of its
steps every other block may take steps of its own.
-/

namespace BlockExplorer

namespace Sources

def lastInTurns (sources : Sources) {fanout : Nat} (schedule : Schedule fanout) :
    Explore Latest := do
  let row ← Store.latestBlock sources.connection
  let block ← sources.annotateInTurns schedule row
  return .last block

def lookInTurns (sources : Sources) {fanout : Nat} (schedule : Schedule fanout) :
    Lookup → Explore Found
  | .byHash hash => .block <$> sources.byHashInTurns schedule hash
  | .byHashText text =>
      match BlockHash.parse text with
      | .error fault => Explore.fail (.client fault)
      | .ok hash => .block <$> sources.byHashInTurns schedule hash
  | .byHeight height => .block <$> sources.byHeightInTurns schedule height
  | .byId id => .block <$> sources.byIdInTurns schedule id
  | .latest none _ => .latest <$> sources.lastInTurns schedule
  | .latest (some count) offset => .latest <$> sources.pageInTurns schedule count offset

end Sources

inductive Slot where
  | waiting (entry : IndexEntry)
  | settled (summary : Option LabelledTx)

inductive Progress where
  | waiting (row : StoredBlock)
  | classifying (row : StoredBlock) (slots : List Slot)
  | annotated (block : EpochBlock)

def Slot.settled? : Slot → Option (Option LabelledTx)
  | .waiting _ => none
  | .settled summary => some summary

namespace Explore

variable {α β : Type}

def oneByOne (task : α → Explore β) : List α → Explore (List β)
  | [] => return []
  | item :: rest => do
      let first ← task item
      let others ← oneByOne task rest
      return first :: others

/-- Takes a step at one place. A place that is not there has none to take. -/
def stepAt (step : α → Explore α) : (place : Nat) → List α → Explore (List α)
  | _, [] => return []
  | 0, item :: rest => do
      let stepped ← step item
      return stepped :: rest
  | place + 1, item :: rest => do
      let others ← stepAt step place rest
      return item :: others

end Explore

namespace Sources

def settle (sources : Sources) : Slot → Explore Slot
  | .waiting entry => .settled <$> sources.classify entry
  | .settled summary => return .settled summary

def summary (sources : Sources) : Slot → Explore (Option LabelledTx)
  | .waiting entry => sources.classify entry
  | .settled summary => return summary

def complete (sources : Sources) (row : StoredBlock) (summaries : List (Option LabelledTx)) :
    Explore EpochBlock := do
  let epoch ← sources.node.epoch row.header.height
  return ⟨⟨row.blockId, row.header, row.lastCommit, summaries.filterMap id⟩, epoch⟩

/-- One step of a block. While it waits for summaries, the step is taken at one of its slots. -/
def advance (sources : Sources) (slot : Nat) : Progress → Explore Progress
  | .waiting row => do
      let entries ← Store.txHashEntries sources.connection row.blockId
      return .classifying row (entries.map .waiting)
  | .classifying row slots =>
      match slots.mapM Slot.settled? with
      | some summaries => .annotated <$> sources.complete row summaries
      | none => .classifying row <$> Explore.stepAt sources.settle slot slots
  | .annotated block => return .annotated block

def finish (sources : Sources) : Progress → Explore EpochBlock
  | .waiting row => sources.annotate row
  | .classifying row slots => do
      let summaries ← Explore.oneByOne sources.summary slots
      sources.complete row summaries
  | .annotated block => return block

def advanceAll (sources : Sources) :
    (turns : List (Nat × Nat)) → List Progress → Explore (List Progress)
  | [], blocks => return blocks
  | (place, slot) :: turns, blocks => do
      let stepped ← Explore.stepAt (sources.advance slot) place blocks
      sources.advanceAll turns stepped

/-- A page whose blocks go side by side for some turns. What is left to do then is done block by
block. -/
def pageSideBySide (sources : Sources) (turns : List (Nat × Nat)) (count : Int)
    (offset : Option Int) : Explore Latest :=
  if count < 0 then Explore.refuse .negativeCount count
  else if offset.getD 0 < 0 then Explore.refuse .negativeOffset (offset.getD 0)
  else do
    let rows ← Store.latestBlocks sources.connection count offset
    let blocks ← sources.advanceAll turns (rows.map .waiting)
    let shown ← Explore.oneByOne sources.finish blocks
    return .page shown

end Sources

/-- A lookup in a world, with the turns that it takes there. -/
structure Visit (fanout : Nat) where
  world : World
  lookup : Lookup
  schedule : Schedule fanout

namespace Visit

variable {fanout : Nat}

def run (visit : Visit fanout) (checksums : Checksums) : Explore Found :=
  (visit.world.sources checksums).lookInTurns visit.schedule visit.lookup

def sessionAfter (checksums : Checksums) (session : Session) : List (Visit fanout) → Session
  | [] => session
  | visit :: rest => sessionAfter checksums ((visit.run checksums).outcome session).2 rest

end Visit

end BlockExplorer
