import BlockExplorer.Lookup.Block

/-!
Looking up blocks with their parts done in any order. The entries of a block, and the blocks of a
page, may be done in every order that names each of them once. The summaries stand in index order
whatever the order in which they came in, and the first one to fail fails the block. In turns, at
most `fanout` parts are under way at a time; each starts as soon as a place is free, one behind the
other, and ends when it will.
-/

namespace BlockExplorer

/-- The order in which `count` tasks end, by their places among the tasks. The one that ends behind
`turn` others has started, so it is one of the first `turn + fanout`. -/
structure Turns (fanout count : Nat) where
  order : List Nat
  complete : order.Perm (List.range count)
  started : ∀ turn place, order[turn]? = some place → place < turn + fanout

abbrev Schedule (fanout : Nat) := (count : Nat) → Turns fanout count

structure TaskOrder (count : Nat) where
  places : List Nat
  complete : places.Perm (List.range count)

abbrev TaskOrders := (count : Nat) → TaskOrder count

/-- The order in which tasks end does not say how many of them are under way. -/
def Schedule.orders {fanout : Nat} (schedule : Schedule fanout) : TaskOrders := fun count =>
  ⟨(schedule count).order, (schedule count).complete⟩

/-- The tasks end in the order in which they start. Without a place none can start. -/
def Schedule.inOrder {fanout : Nat} (room : 0 < fanout) : Schedule fanout := fun count =>
  { order := List.range count
    complete := List.Perm.refl _
    started := by
      intro turn place found
      obtain ⟨bound, same⟩ := List.getElem?_eq_some_iff.mp found
      rw [List.getElem_range] at same
      omega }

namespace Explore

variable {α β : Type}

def placed (order : List Nat) (items : List α) : List (Nat × α) :=
  order.filterMap fun place => items[place]?.map fun item => (place, item)

def arranged (count : Nat) (results : List (Nat × α)) : List α :=
  (List.range count).filterMap fun place => results.lookup place

def runPlaced (task : α → Explore β) : List (Nat × α) → Explore (List (Nat × β))
  | [] => return []
  | (place, item) :: rest => do
      let first ← task item
      let others ← runPlaced task rest
      return (place, first) :: others

/-- Does a task with each item, in the given order; the results are in the order of the items. -/
def gather (task : α → Explore β) (order : List Nat) (items : List α) : Explore (List β) := do
  let results ← runPlaced task (placed order items)
  return arranged items.length results

end Explore

namespace Sources

def assembleBy (sources : Sources) (orders : TaskOrders) (row : StoredBlock) : Explore Block := do
  let entries ← Store.txHashEntries sources.connection row.blockId
  let summaries ← Explore.gather sources.classify (orders entries.length).places entries
  return ⟨row.blockId, row.header, row.lastCommit, summaries.filterMap id⟩

def annotateBy (sources : Sources) (inner : StoredBlock → TaskOrders) (row : StoredBlock) :
    Explore EpochBlock := do
  let block ← sources.assembleBy (inner row) row
  let epoch ← sources.node.epoch block.header.height
  return ⟨block, epoch⟩

def pageBy (sources : Sources) (outer : TaskOrders) (inner : StoredBlock → TaskOrders)
    (count : Int) (offset : Option Int) : Explore Latest :=
  if count < 0 then Explore.refuse .negativeCount count
  else if offset.getD 0 < 0 then Explore.refuse .negativeOffset (offset.getD 0)
  else do
    let rows ← Store.latestBlocks sources.connection count offset
    let blocks ← Explore.gather (sources.annotateBy inner) (outer rows.length).places rows
    return .page blocks

variable {fanout : Nat}

def assembleInTurns (sources : Sources) (schedule : Schedule fanout) (row : StoredBlock) :
    Explore Block :=
  sources.assembleBy schedule.orders row

def assembleSomeInTurns (sources : Sources) (schedule : Schedule fanout) :
    Option StoredBlock → Explore (Option Block)
  | none => return none
  | some row => some <$> sources.assembleInTurns schedule row

def byHashInTurns (sources : Sources) (schedule : Schedule fanout) (hash : Bytes) :
    Explore (Option Block) := do
  let row ← Store.blockByHash sources.connection hash
  sources.assembleSomeInTurns schedule row

def byIdInTurns (sources : Sources) (schedule : Schedule fanout) (id : Bytes) :
    Explore (Option Block) := do
  let row ← Store.blockById sources.connection id
  sources.assembleSomeInTurns schedule row

def byHeightInTurns (sources : Sources) (schedule : Schedule fanout) (height : Int) :
    Explore (Option Block) :=
  if height < 0 then Explore.refuse .negativeHeight height
  else if maxHeight < height then Explore.refuse .heightTooGreat height
  else do
    let row ← Store.blockByHeight sources.connection height
    sources.assembleSomeInTurns schedule row

def annotateInTurns (sources : Sources) (schedule : Schedule fanout) (row : StoredBlock) :
    Explore EpochBlock :=
  sources.annotateBy (fun _ => schedule.orders) row

def pageInTurns (sources : Sources) (schedule : Schedule fanout) (count : Int)
    (offset : Option Int) : Explore Latest :=
  sources.pageBy schedule.orders (fun _ => schedule.orders) count offset

theorem assemble_in_turns_eq (sources : Sources) (schedule : Schedule fanout) (row : StoredBlock) :
    sources.assembleInTurns schedule row = (do
      let entries ← Store.txHashEntries sources.connection row.blockId
      let summaries ← Explore.gather sources.classify (schedule entries.length).order entries
      return ⟨row.blockId, row.header, row.lastCommit, summaries.filterMap id⟩) := rfl

theorem annotate_in_turns_eq (sources : Sources) (schedule : Schedule fanout) (row : StoredBlock) :
    sources.annotateInTurns schedule row = (do
      let block ← sources.assembleInTurns schedule row
      let epoch ← sources.node.epoch block.header.height
      return ⟨block, epoch⟩) := rfl

theorem page_in_turns_eq (sources : Sources) (schedule : Schedule fanout) (count : Int)
    (offset : Option Int) :
    sources.pageInTurns schedule count offset =
      if count < 0 then Explore.refuse .negativeCount count
      else if offset.getD 0 < 0 then Explore.refuse .negativeOffset (offset.getD 0)
      else do
        let rows ← Store.latestBlocks sources.connection count offset
        let blocks ← Explore.gather (sources.annotateInTurns schedule)
          (schedule rows.length).order rows
        return .page blocks := rfl

end Sources

end BlockExplorer
