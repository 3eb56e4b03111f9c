import BlockExplorer.Proofs.Footprint
import BlockExplorer.Proofs.Histories
import BlockExplorer.Proofs.Pages

/-!
Pages while the chain grows. Rows above all stored heights come first in the descending order, and
the index and the records of the older blocks stay what they were. So the page that begins as many
places further on as there are new rows is the page that there was before, whatever the new rows
look like.
-/

namespace BlockExplorer

open Collecting Explore

/-- The items of two lists in one, those of each list in their order. -/
inductive Interleaved {α : Type} : (first second whole : List α) → Prop
  | nil : Interleaved [] [] []
  | left {item : α} {first second whole : List α} (rest : Interleaved first second whole) :
      Interleaved (item :: first) second (item :: whole)
  | right {item : α} {first second whole : List α} (rest : Interleaved first second whole) :
      Interleaved first (item :: second) (item :: whole)

namespace Tables

def Stores (tables : Tables) (stored : StoredBlock) : Prop :=
  ∃ row ∈ tables.blocks, Store.readBlock row = .ok stored

def Lists (tables : Tables) (hash : Bytes) : Prop :=
  ∃ stored, tables.Stores stored ∧
    ∃ row ∈ tables.index stored.blockId, ∃ entry, Store.readEntry row = .ok entry ∧
      entry.hash = hash

end Tables

/-- Rows were added at any places of the tables: blocks above all stored heights, entries of no
stored block, and records of transactions that no stored block lists. The database has the faults
that it had, and the node answers as before at the heights of the stored blocks. -/
structure World.GrowsBy (old : World) (added : Tables) (grown : World) : Prop where
  faults : old.fault? = grown.fault?
  blocks : Interleaved old.tables.blocks added.blocks grown.tables.blocks
  txHashes : Interleaved old.tables.txHashes added.txHashes grown.tables.txHashes
  transactions : Interleaved old.tables.transactions added.transactions grown.tables.transactions
  higher : ∀ row ∈ added.blocks, ∀ other ∈ old.tables.blocks, other.height < row.height
  otherBlocks : ∀ row ∈ added.txHashes, ∀ stored, old.tables.Stores stored →
    row.hasBytes "block_id" stored.blockId = false
  otherHashes : ∀ row ∈ added.transactions, ∀ hash, old.tables.Lists hash →
    row.hasBytes "hash" hash = false
  epochs : ∀ stored, old.tables.Stores stored →
    old.node.epochAt stored.header.height = grown.node.epochAt stored.header.height

namespace Interleaved

variable {α : Type} {first second whole : List α}

theorem append (first second : List α) : Interleaved first second (first ++ second) := by
  induction first with
  | nil =>
      induction second with
      | nil => exact .nil
      | cons item rest induction => exact .right induction
  | cons item rest induction => exact .left induction

theorem filter_eq {wanted : α → Bool} (together : Interleaved first second whole)
    (foreign : ∀ item ∈ second, wanted item = false) :
    first.filter wanted = whole.filter wanted := by
  induction together with
  | nil => rfl
  | @left item _ _ _ _ induction =>
      rw [List.filter_cons, List.filter_cons, induction foreign]
  | right _ induction =>
      have refused := foreign _ List.mem_cons_self
      rw [List.filter_cons, refused, induction fun item member =>
        foreign item (List.mem_cons_of_mem _ member)]
      rfl

theorem find?_eq {wanted : α → Bool} (together : Interleaved first second whole)
    (foreign : ∀ item ∈ second, wanted item = false) :
    first.find? wanted = whole.find? wanted := by
  rw [← List.head?_filter, ← List.head?_filter, together.filter_eq foreign]

end Interleaved

namespace Tables

theorem insert_by_height_behind {row : Row} {high : List Row} (low : List Row)
    (lower : ∀ other ∈ high, row.height < other.height) :
    insertByHeight row (high ++ low) = high ++ insertByHeight row low := by
  induction high with
  | nil => rfl
  | cons first rest induction =>
      have passed : ¬first.height ≤ row.height := by
        have below := lower first List.mem_cons_self
        omega
      rw [List.cons_append, insertByHeight, if_neg passed, induction fun other member =>
        lower other (List.mem_cons_of_mem first member)]
      rfl

theorem insert_by_height_before {row : Row} (high : List Row) {low : List Row}
    (upper : ∀ other ∈ low, other.height ≤ row.height) :
    insertByHeight row (high ++ low) = insertByHeight row high ++ low := by
  induction high with
  | nil =>
      cases low with
      | nil => rfl
      | cons first rest =>
          have above := upper first List.mem_cons_self
          simp only [List.nil_append, insertByHeight, if_pos above, List.cons_append]
  | cons first rest induction =>
      rw [List.cons_append, insertByHeight, insertByHeight, induction]
      split <;> rfl

/-- The higher rows have the first places, in the order that they have by themselves. -/
theorem by_height_interleaved {low high whole : List Row} (together : Interleaved low high whole)
    (higher : ∀ row ∈ high, ∀ other ∈ low, other.height < row.height) :
    byHeight whole = byHeight high ++ byHeight low := by
  induction together with
  | nil => rfl
  | @left row low high whole _ induction =>
      have below := fun other member =>
        higher other (mem_by_height.mp member) row List.mem_cons_self
      have sorted := induction fun other member stored listed =>
        higher other member stored (List.mem_cons_of_mem row listed)
      have inserted := insert_by_height_behind (byHeight low) below
      rw [← sorted] at inserted
      exact inserted
  | @right row low high whole _ induction =>
      have above : ∀ other ∈ byHeight low, other.height ≤ row.height := by
        intro other member
        exact Int.le_of_lt (higher row List.mem_cons_self other (mem_by_height.mp member))
      have sorted := induction fun other member =>
        higher other (List.mem_cons_of_mem row member)
      have inserted := insert_by_height_before (byHeight high) above
      rw [← sorted] at inserted
      exact inserted

end Tables

theorem Sources.header_of_assembled {sources : Sources} {fanout : Nat} {schedule : Schedule fanout}
    {stored : StoredBlock} {block : Block}
    (found : (sources.assembleInTurns schedule stored).Finds block) :
    block.header = stored.header := by
  obtain ⟨entries, _, classified⟩ := finds_bind found
  obtain ⟨summaries, _, shown⟩ := finds_bind classified
  rw [eq_of_finds_pure shown]

namespace World.GrowsBy

variable {old grown : World} {added : Tables} (grows : old.GrowsBy added grown)

include grows

theorem window_shifted (count : Int) {offset : Option Int} (shifted : ∀ start ∈ offset, 0 ≤ start) :
    old.tables.window count offset =
      grown.tables.window count (some (offset.getD 0 + added.blocks.length)) := by
  have start : 0 ≤ offset.getD 0 := Tables.start_nonneg shifted
  have places : (offset.getD 0 + added.blocks.length).toNat =
      (Tables.byHeight added.blocks).length + (offset.getD 0).toNat := by
    rw [Tables.length_by_height]
    omega
  rw [Tables.window, Tables.window, Option.getD_some, places,
    Tables.by_height_interleaved grows.blocks grows.higher, List.drop_length_add_append]

theorem index_eq {stored : StoredBlock} (known : old.tables.Stores stored) :
    old.tables.index stored.blockId = grown.tables.index stored.blockId :=
  grows.txHashes.filter_eq fun row member => grows.otherBlocks row member stored known

theorem record_eq {hash : Bytes} (listed : old.tables.Lists hash) :
    old.tables.record? hash = grown.tables.record? hash :=
  grows.transactions.find?_eq fun row member => grows.otherHashes row member hash listed

theorem page_answer_eq (count : Int) {offset : Option Int} (shifted : ∀ start ∈ offset, 0 ≤ start) :
    old.reply (.blockPage count (offset.getD 0)) =
      grown.reply (.blockPage count (offset.getD 0 + added.blocks.length)) := by
  have answered : old.tables.answer (.blockPage count (offset.getD 0)) =
      grown.tables.answer (.blockPage count (offset.getD 0 + added.blocks.length)) :=
    grows.window_shifted count shifted
  rw [reply, reply, grows.faults, answered]
  rfl

variable {fanout : Nat} (checksums : Checksums) (schedule : Schedule fanout)

theorem assemble_in_turns_eq {stored : StoredBlock} (known : old.tables.Stores stored) :
    (old.sources checksums).assembleInTurns schedule stored =
      (grown.sources checksums).assembleInTurns schedule stored := by
  refine assemble_in_turns_congr grows.faults checksums schedule (grows.index_eq known) ?_
  intro entries read entry member _
  rw [read_all_eq_map_m] at read
  obtain ⟨row, listed, entryRead⟩ := exists_origin (map_m_eq_ok_iff.mp read) member
  exact grows.record_eq ⟨stored, known, row, listed, entry, entryRead, rfl⟩

theorem annotate_in_turns_eq {stored : StoredBlock} (known : old.tables.Stores stored) :
    (old.sources checksums).annotateInTurns schedule stored =
      (grown.sources checksums).annotateInTurns schedule stored := by
  rw [Sources.annotate_in_turns_eq, Sources.annotate_in_turns_eq,
    ← grows.assemble_in_turns_eq checksums schedule known]
  apply bind_congr_found
  intro block found
  have asked : old.node.epoch block.header.height = grown.node.epoch block.header.height := by
    rw [Sources.header_of_assembled found]
    exact Node.epoch_congr (grows.epochs stored known)
  exact congrArg (· >>= fun epoch => pure (EpochBlock.mk block epoch)) asked

theorem page_in_turns_eq (count : Int) (offset : Option Int)
    (shifted : ∀ start ∈ offset, 0 ≤ start) (before after : Session) :
    (((grown.sources checksums).pageInTurns schedule count
        (some (offset.getD 0 + added.blocks.length))).outcome after).1 =
      (((old.sources checksums).pageInTurns schedule count offset).outcome before).1 := by
  have start : 0 ≤ offset.getD 0 := Tables.start_nonneg shifted
  rw [Sources.page_in_turns_eq, Sources.page_in_turns_eq]
  split
  · rfl
  rw [if_neg (show ¬(some (offset.getD 0 + (added.blocks.length : Int))).getD 0 < 0 by
    simp only [Option.getD_some]; omega), if_neg (by omega)]
  have listed := Store.latest_blocks_yields old.connection count offset
  have listedAfter := Store.latest_blocks_yields grown.connection count
    (some (offset.getD 0 + added.blocks.length))
  rw [reply_connection] at listed
  rw [reply_connection, Option.getD_some, ← grows.page_answer_eq count shifted] at listedAfter
  refine listedAfter.outcome_behind listed (fun stored found => ?_) (fun stored => ?_) after before
  · -- The rows that were read are rows of the old world.
    obtain ⟨rows, answered, read⟩ := bind_eq_ok_iff.mp found
    have same : rows = old.tables.window count offset := by
      cases connected : old.reply (.blockPage count (offset.getD 0)) with
      | error fault =>
          rw [connected] at answered
          cases answered
      | ok others =>
          rw [connected] at answered
          cases answered
          exact answer_of_reply connected
    rw [read_all_eq_map_m, same] at read
    have annotated := gather_congr (fun block member => by
      obtain ⟨row, listed, known⟩ := exists_origin (map_m_eq_ok_iff.mp read) member
      exact grows.annotate_in_turns_eq checksums schedule
        ⟨row, Tables.mem_blocks_of_mem_window listed, known⟩) (schedule stored.length).order
    rw [annotated]
  · have each :=
      (grown.sources checksums).steps_uniform.annotate_in_turns uniform_composable schedule
    exact (uniform_composable.gather each _ stored).bind fun _ => uniform_pure _

end World.GrowsBy

/-- However the chain has grown, a page that begins as many places further on as there are new rows
of blocks shows what the page showed before, or fails as it failed before. The new rows may be
malformed, and it makes no difference how many blocks are under way at a time, nor in which order
they are done. -/
theorem pages_keep_while_chain_grows (checksums : Checksums) (old grown : World) (added : Tables)
    (count : Int) (offset : Option Int) (before after : Session)
    (grows : old.GrowsBy added grown) (shifted : ∀ start ∈ offset, 0 ≤ start) :
    let further := some (offset.getD 0 + added.blocks.length)
    (((grown.sources checksums).latest (some count) further).outcome after).1 =
        (((old.sources checksums).latest (some count) offset).outcome before).1 ∧
      ∀ (fanout : Nat) (schedule : Schedule fanout),
        (((grown.sources checksums).pageInTurns schedule count further).outcome after).1 =
          (((old.sources checksums).pageInTurns schedule count offset).outcome before).1 := by
  intro further
  have inTurns {fanout : Nat} (schedule : Schedule fanout) :=
    grows.page_in_turns_eq checksums schedule count offset shifted before after
  refine ⟨?_, fun fanout schedule => inTurns schedule⟩
  -- One by one is a schedule like any other.
  have inOrder := inTurns (Schedule.inOrder Nat.one_pos)
  rw [Sources.page_in_order, Sources.page_in_order] at inOrder
  exact inOrder

namespace SmallStore

def bareRow (id : Bytes) (height : Int) : Row :=
  Value.withNames [("block_id", .bytes id), ("header_height", .int height)]

/-- Two blocks, of which one is malformed and one has a transaction, and an entry whose block is not
there yet. -/
def addedTables : Tables where
  blocks := [bareRow [4] 12, blockRow [5] 11]
  txHashes := [entryRow [5] [0xE] .decrypted, entryRow [6] [0xB] .wrapper]
  transactions := [recordRow [0xE] (.bytes [0xAB])]

/-- The malformed block stands before the old ones, the other new rows stand behind them, and the
node has lost sight of the new heights. -/
def grownWorld : World where
  tables :=
    { blocks := bareRow [4] 12 :: (tables.blocks ++ [blockRow [5] 11])
      txHashes := tables.txHashes ++ addedTables.txHashes
      transactions := tables.transactions ++ addedTables.transactions }
  fault? _ := none
  node :=
    { epochAt := fun height =>
        if height < 10 then world.node.epochAt height else .error ⟨.connect, []⟩
      health := .ok ⟨200, []⟩ }

theorem eq_of_stores {stored : StoredBlock} (known : tables.Stores stored) :
    stored = ⟨[1], header 5, none⟩ ∨ stored = ⟨[2], header 9, none⟩ ∨
      stored = ⟨[3], header 7, none⟩ := by
  obtain ⟨row, member, read⟩ := known
  simp only [tables, List.mem_cons, List.not_mem_nil, or_false] at member
  rcases member with rfl | rfl | rfl
  · exact .inl (Except.ok.inj (read.symm.trans rfl))
  · exact .inr (.inl (Except.ok.inj (read.symm.trans rfl)))
  · exact .inr (.inr (Except.ok.inj (read.symm.trans rfl)))

theorem mem_of_lists {hash : Bytes} (listed : tables.Lists hash) :
    hash ∈ entries.map IndexEntry.hash := by
  obtain ⟨stored, known, row, member, entry, read, rfl⟩ := listed
  rcases eq_of_stores known with rfl | rfl | rfl
  · have index : (tables.index [1]).mapM Store.readEntry = .ok entries := rfl
    obtain ⟨found, present, same⟩ := exists_origin (map_m_eq_ok_iff.mp index).flip member
    rw [read] at same
    rw [Except.ok.inj same]
    exact List.mem_map_of_mem present
  · cases member
  · cases member

theorem grows : world.GrowsBy addedTables grownWorld where
  faults := rfl
  blocks := .right (.append _ _)
  txHashes := .append _ _
  transactions := .append _ _
  higher := by decide
  otherBlocks row member stored known := by
    simp only [addedTables, List.mem_cons, List.not_mem_nil, or_false] at member
    rcases member with rfl | rfl <;> rcases eq_of_stores known with rfl | rfl | rfl <;> rfl
  otherHashes row member hash listed := by
    have foreign : ∀ row ∈ addedTables.transactions, ∀ hash ∈ entries.map IndexEntry.hash,
        row.hasBytes "hash" hash = false := by decide
    exact foreign row member hash (mem_of_lists listed)
  epochs stored known := by
    rcases eq_of_stores known with rfl | rfl | rfl <;> rfl

end SmallStore

/-- The second and the third block of three, after two more were added above them. -/
theorem pages_keep_while_chain_grows_small_store :
    SmallStore.world.GrowsBy SmallStore.addedTables SmallStore.grownWorld ∧
      (∀ start ∈ some (1 : Int), 0 ≤ start) ∧
      (((SmallStore.grownWorld.sources SmallStore.checksums).latest (some 2)
          (some 3)).outcome Session.start).1 =
        .ok (.page [⟨SmallStore.thirdBlock, 1⟩, ⟨SmallStore.firstBlock, 1⟩]) := by
  have kept := (pages_keep_while_chain_grows SmallStore.checksums SmallStore.world
    SmallStore.grownWorld SmallStore.addedTables 2 (some 1) Session.start Session.start
    SmallStore.grows SmallStore.one_shifted).1
  exact ⟨SmallStore.grows, SmallStore.one_shifted,
    kept.trans (SmallStore.page_found Session.start)⟩

end BlockExplorer
