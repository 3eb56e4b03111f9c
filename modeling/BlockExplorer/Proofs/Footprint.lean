import BlockExplorer.Proofs.Composition
import BlockExplorer.Proofs.Retrieval

/-!
What a lookup of a block reads: the first row that matches, the index of the block in it, and the
first record of each transaction that is listed there as decrypted. Two worlds that share these, and
the faults of the database, give the same run: the same block or failure, the same queries, the same
counts. Nothing else in a world shows, and the node is left alone.
-/

namespace BlockExplorer

open Explore

inductive BlockKey where
  | hash (hash : Bytes)
  | hashText (text : Text)
  | id (id : Bytes)
  | height (height : Int)

/-- The first row that matches. A text that is no hash matches none. -/
def Tables.rowAt? (tables : Tables) : BlockKey → Option Row
  | .hash hash => tables.blockWithId? hash
  | .hashText text =>
      match BlockHash.parse text with
      | .error _ => none
      | .ok hash => tables.blockWithId? hash
  | .id id => tables.blockWithId? id
  | .height height => tables.blockAtHeight? height

namespace Sources

def blockAt (sources : Sources) : BlockKey → Explore (Option Block)
  | .hash hash => sources.byHash hash
  | .hashText text => sources.byHashText text
  | .id id => sources.byId id
  | .height height => sources.byHeight height

def blockAtInTurns (sources : Sources) {fanout : Nat} (schedule : Schedule fanout) :
    BlockKey → Explore (Option Block)
  | .hash hash => sources.byHashInTurns schedule hash
  | .hashText text =>
      match BlockHash.parse text with
      | .error fault => fail (.client fault)
      | .ok hash => sources.byHashInTurns schedule hash
  | .id id => sources.byIdInTurns schedule id
  | .height height => sources.byHeightInTurns schedule height

theorem block_at_in_order (sources : Sources) {fanout : Nat} (room : 0 < fanout) (key : BlockKey) :
    sources.blockAtInTurns (Schedule.inOrder room) key = sources.blockAt key := by
  cases key with
  | hash hash => exact congrFun (sources.by_hash_in_order room) hash
  | hashText text =>
      cases parsed : BlockHash.parse text with
      | error fault => simp only [blockAtInTurns, blockAt, byHashText, parsed]
      | ok hash => simp only [blockAtInTurns, blockAt, byHashText, parsed, by_hash_in_order]
  | id id => exact congrFun (sources.by_id_in_order room) id
  | height height => exact congrFun (sources.by_height_in_order room) height

end Sources

/-- The worlds hold the same of the block that a key is for. What an index entry stands for matters
only where the whole index can be read. -/
structure World.SharesBlock (first second : World) (key : BlockKey) : Prop where
  faults : first.fault? = second.fault?
  row : first.tables.rowAt? key = second.tables.rowAt? key
  index : ∀ row ∈ first.tables.rowAt? key, ∀ stored, Store.readBlock row = .ok stored →
    first.tables.index stored.blockId = second.tables.index stored.blockId
  records : ∀ row ∈ first.tables.rowAt? key, ∀ stored, Store.readBlock row = .ok stored →
    ∀ entries, Store.readAll Store.readEntry (first.tables.index stored.blockId) = .ok entries →
      ∀ entry ∈ entries, entry.kind = .decrypted →
        first.tables.record? entry.hash = second.tables.record? entry.hash

/-- The run asks the store only, and the requests to the node are counted as before. -/
structure Explore.LeavesNode {α : Type} (run : Explore α) : Prop where
  queries : run.Sends fun access => ∃ query, access = .query query
  requests : run.AsksNoNode

namespace Explore

variable {α β : Type}

theorem bind_congr_found {run : Explore α} {next other : α → Explore β}
    (same : ∀ content, run.Finds content → next content = other content) :
    run >>= next = run >>= other := by
  apply ext_outcome
  intro session
  rw [outcome_bind, outcome_bind]
  rcases equation : run.outcome session with ⟨result, after⟩
  cases result with
  | error failure => rfl
  | ok content =>
      have continued := same content ⟨session, after, equation⟩
      exact congrArg (fun run => run.outcome after) continued

theorem run_placed_congr {task other : α → Explore β} {entries : List (Nat × α)}
    (same : ∀ entry ∈ entries, task entry.2 = other entry.2) :
    runPlaced task entries = runPlaced other entries := by
  induction entries with
  | nil => rfl
  | cons entry rest induction =>
      have later := induction fun behind member => same behind (List.mem_cons_of_mem entry member)
      rw [runPlaced, runPlaced, same entry List.mem_cons_self, later]

theorem gather_congr {task other : α → Explore β} {items : List α}
    (same : ∀ item ∈ items, task item = other item) (order : List Nat) :
    gather task order items = gather other order items := by
  have placedSame : runPlaced task (placed order items) = runPlaced other (placed order items) := by
    apply run_placed_congr
    intro entry member
    exact same entry.2 (mem_of_mem_placed member)
  rw [gather, gather, placedSame]

theorem leaves_node_composable : Composable fun _ run => run.LeavesNode where
  idle _ content := ⟨sends_pure content, asks_no_node_pure content⟩
  behind _ _ _ _ first second :=
    ⟨first.queries.bind fun content => (second content).queries,
      first.requests.bind fun content => (second content).requests⟩

theorem leaves_node_of_except (result : Except Failure α) : (ofExcept result).LeavesNode :=
  ⟨sends_of_except result, asks_no_node_of_except result⟩

end Explore

namespace Store

theorem ask_congr {first second : Connection} {query : Query}
    (acquired : first.isAcquired query = second.isAcquired query)
    (same : first.reply query = second.reply query) :
    ask (some first) query = ask (some second) query := by
  apply ext_outcome
  intro session
  rw [outcome_ask_some, outcome_ask_some, acquired, same]

/-- Only the first row of an answer counts where one row is wanted. -/
theorem ask_one_congr {first second : Connection} {query : Query}
    (acquired : first.isAcquired query = second.isAcquired query)
    (same : (first.reply query).map List.head? = (second.reply query).map List.head?) :
    askOne (some first) query = askOne (some second) query := by
  apply ext_outcome
  intro session
  rw [askOne, askOne, outcome_bind, outcome_bind, outcome_ask_some, outcome_ask_some, acquired]
  cases one : first.reply query with
  | error fault =>
      rw [one] at same
      rw [Collecting.map_eq_error_iff.mp same.symm]
  | ok rows =>
      rw [one] at same
      obtain ⟨others, answered, heads⟩ := Collecting.map_eq_ok_iff.mp same.symm
      rw [answered]
      simp only [Except.mapError, heads, outcome_pure]

theorem ask_leaves_node (connection : Option Connection) (query : Query) :
    (ask connection query).LeavesNode :=
  ⟨(ask_sends connection query).only ⟨query, rfl⟩, ask_asks_no_node connection query⟩

theorem ask_one_leaves_node (connection : Option Connection) (query : Query) :
    (askOne connection query).LeavesNode :=
  ⟨(ask_one_sends connection query).only ⟨query, rfl⟩, ask_one_asks_no_node connection query⟩

end Store

namespace World

section

variable {world : World}

theorem answer_of_reply {query : Query} {rows : List Row}
    (answered : world.reply query = .ok rows) : rows = world.tables.answer query := by
  rw [reply] at answered
  split at answered
  · cases answered
  · exact (Except.ok.inj answered).symm

theorem index_of_finds {blockId : Bytes} {entries : List IndexEntry}
    (found : (Store.txHashEntries (some world.connection) blockId).Finds entries) :
    Store.readAll Store.readEntry (world.tables.index blockId) = .ok entries := by
  obtain ⟨rows, asked, read⟩ := finds_bind found
  have same := answer_of_reply (Store.reply_of_finds asked)
  rw [same] at read
  exact eq_ok_of_finds_of_except read

theorem row_of_finds {query : Query} {stored : StoredBlock}
    (found : (do
      let row ← Store.askOne (some world.connection) query
      Explore.ofExcept (Store.readSome Store.readBlock row)).Finds (some stored)) :
    ∃ row ∈ (world.tables.answer query).head?, Store.readBlock row = .ok stored := by
  obtain ⟨row?, asked, read⟩ := finds_bind found
  obtain ⟨rows, answered, shown⟩ := Store.reply_of_finds_one asked
  rw [answer_of_reply answered] at shown
  cases row? with
  | none => cases eq_ok_of_finds_of_except read
  | some row =>
      obtain ⟨content, readable, same⟩ :=
        Collecting.map_eq_ok_iff.mp (eq_ok_of_finds_of_except read)
      cases same
      exact ⟨row, shown row rfl, readable⟩

end

variable {first second : World} (faults : first.fault? = second.fault?)

include faults

theorem reply_congr {query : Query}
    (same : first.tables.answer query = second.tables.answer query) :
    first.reply query = second.reply query := by
  rw [reply, reply, faults, same]

theorem reply_head_congr {query : Query}
    (same : (first.tables.answer query).head? = (second.tables.answer query).head?) :
    (first.reply query).map List.head? = (second.reply query).map List.head? := by
  rw [reply, reply, faults]
  cases second.fault? query.table? with
  | none => exact congrArg Except.ok same
  | some fault => rfl

theorem record_congr {hash : Bytes}
    (same : first.tables.record? hash = second.tables.record? hash) :
    Store.txRecord (some first.connection) hash = Store.txRecord (some second.connection) hash := by
  have heads : (first.tables.answer (.transaction hash)).head? =
      (second.tables.answer (.transaction hash)).head? := by
    rw [Tables.answer, Tables.answer, List.head?_filter, List.head?_filter]
    exact same
  have asked : Store.askOne (some first.connection) (.transaction hash) =
      Store.askOne (some second.connection) (.transaction hash) :=
    Store.ask_one_congr rfl (reply_head_congr faults heads)
  rw [Store.txRecord, Store.txRecord, asked]

theorem classify_congr (checksums : Checksums) {entry : IndexEntry}
    (same : entry.kind = .decrypted →
      first.tables.record? entry.hash = second.tables.record? entry.hash) :
    (first.sources checksums).classify entry = (second.sources checksums).classify entry := by
  unfold Sources.classify
  cases kind : entry.kind with
  | wrapper => rfl
  | decrypted =>
      have read := record_congr faults (same kind)
      simp only [sources, read]
      rfl

theorem entries_congr {blockId : Bytes}
    (same : first.tables.index blockId = second.tables.index blockId) :
    Store.txHashEntries (some first.connection) blockId =
      Store.txHashEntries (some second.connection) blockId := by
  have asked : Store.ask (some first.connection) (.txHashes blockId) =
      Store.ask (some second.connection) (.txHashes blockId) :=
    Store.ask_congr rfl (reply_congr faults same)
  rw [Store.txHashEntries, Store.txHashEntries, asked]

variable {fanout : Nat} (checksums : Checksums) (schedule : Schedule fanout)

theorem assemble_in_turns_congr {row : StoredBlock}
    (index : first.tables.index row.blockId = second.tables.index row.blockId)
    (records : ∀ entries,
      Store.readAll Store.readEntry (first.tables.index row.blockId) = .ok entries →
        ∀ entry ∈ entries, entry.kind = .decrypted →
          first.tables.record? entry.hash = second.tables.record? entry.hash) :
    (first.sources checksums).assembleInTurns schedule row =
      (second.sources checksums).assembleInTurns schedule row := by
  have listed : Store.txHashEntries (second.sources checksums).connection row.blockId =
      Store.txHashEntries (first.sources checksums).connection row.blockId :=
    (entries_congr faults index).symm
  rw [Sources.assemble_in_turns_eq, Sources.assemble_in_turns_eq, listed]
  apply bind_congr_found
  intro entries found
  have read := index_of_finds found
  have classified := gather_congr (fun entry member =>
    classify_congr faults checksums (records entries read entry member))
    (schedule entries.length).order
  rw [classified]

/-- What is put together from the first row that answers a query. -/
theorem found_congr {query : Query} {row? : Option Row}
    (firstRow : (first.tables.answer query).head? = row?)
    (secondRow : (second.tables.answer query).head? = row?)
    (assembled : ∀ row ∈ row?, ∀ stored, Store.readBlock row = .ok stored →
      (first.sources checksums).assembleInTurns schedule stored =
        (second.sources checksums).assembleInTurns schedule stored) :
    (do
      let row ← Store.askOne (some first.connection) query
      Explore.ofExcept (Store.readSome Store.readBlock row)) >>=
        (first.sources checksums).assembleSomeInTurns schedule =
    (do
      let row ← Store.askOne (some second.connection) query
      Explore.ofExcept (Store.readSome Store.readBlock row)) >>=
        (second.sources checksums).assembleSomeInTurns schedule := by
  have asked : Store.askOne (some first.connection) query =
      Store.askOne (some second.connection) query :=
    Store.ask_one_congr rfl (reply_head_congr faults (firstRow.trans secondRow.symm))
  rw [← asked]
  -- The two runs part only behind a row that was found and could be read.
  apply bind_congr_found
  intro stored? found
  cases stored? with
  | none => rfl
  | some stored =>
      obtain ⟨row, present, read⟩ := row_of_finds found
      rw [firstRow] at present
      have same := assembled row present stored read
      rw [Sources.assembleSomeInTurns, Sources.assembleSomeInTurns, same]

end World

namespace World.SharesBlock

variable {first second : World} {key : BlockKey} (shares : first.SharesBlock second key)
  {fanout : Nat} (checksums : Checksums) (schedule : Schedule fanout)

include shares

theorem assembled (row : Row) (found : row ∈ first.tables.rowAt? key) (stored : StoredBlock)
    (read : Store.readBlock row = .ok stored) :
    (first.sources checksums).assembleInTurns schedule stored =
      (second.sources checksums).assembleInTurns schedule stored :=
  assemble_in_turns_congr shares.faults checksums schedule (shares.index row found stored read)
    (shares.records row found stored read)

theorem by_hash_in_turns_congr {hash : Bytes} (same : ∀ tables : Tables,
    tables.rowAt? key = tables.blockWithId? hash) :
    (first.sources checksums).byHashInTurns schedule hash =
      (second.sources checksums).byHashInTurns schedule hash := by
  have head (tables : Tables) :
      (tables.answer (.blockByHash hash)).head? = tables.rowAt? key := by
    rw [same, Tables.answer, List.head?_filter]
    rfl
  apply found_congr shares.faults checksums schedule (head first.tables)
  · rw [head, shares.row]
  · exact shares.assembled checksums schedule

theorem by_height_in_turns_congr {height : Int} (same : ∀ tables : Tables,
    tables.rowAt? key = tables.blockAtHeight? height) :
    (first.sources checksums).byHeightInTurns schedule height =
      (second.sources checksums).byHeightInTurns schedule height := by
  have head (tables : Tables) :
      (tables.answer (.blockByHeight height)).head? = tables.rowAt? key := by
    rw [same, Tables.answer, List.head?_filter]
    rfl
  have found := found_congr shares.faults checksums schedule (head first.tables)
    ((head second.tables).trans shares.row.symm) (shares.assembled checksums schedule)
  rw [Sources.byHeightInTurns, Sources.byHeightInTurns]
  split
  · rfl
  split
  · rfl
  exact found

theorem block_at_in_turns_congr :
    (first.sources checksums).blockAtInTurns schedule key =
      (second.sources checksums).blockAtInTurns schedule key := by
  cases key with
  | hash hash => exact shares.by_hash_in_turns_congr checksums schedule fun _ => rfl
  | id id => exact shares.by_hash_in_turns_congr checksums schedule fun _ => rfl
  | height height => exact shares.by_height_in_turns_congr checksums schedule fun _ => rfl
  | hashText text =>
      rw [Sources.blockAtInTurns, Sources.blockAtInTurns]
      cases parsed : BlockHash.parse text with
      | error fault => rfl
      | ok hash =>
          apply shares.by_hash_in_turns_congr checksums schedule
          intro tables
          rw [Tables.rowAt?, parsed]

end World.SharesBlock

namespace Sources

variable (sources : Sources) {fanout : Nat} (schedule : Schedule fanout)

theorem parts_leave_node : HoldsOfParts (fun _ run => run.LeavesNode) sources where
  count := ⟨sends_count_decode_failure, asks_no_node_count_decode_failure⟩
  entries _ := leaves_node_composable.behind _ _ _ _ (Store.ask_leaves_node _ _)
    fun _ => leaves_node_of_except _
  record _ := leaves_node_composable.behind _ _ _ _ (Store.ask_one_leaves_node _ _)
    fun _ => leaves_node_of_except _

theorem block_at_in_turns_leaves_node (key : BlockKey) :
    (sources.blockAtInTurns schedule key).LeavesNode := by
  have found (query : Query) : (do
      let row ← Store.askOne sources.connection query
      Explore.ofExcept (Store.readSome Store.readBlock row)).LeavesNode :=
    leaves_node_composable.behind _ _ _ _ (Store.ask_one_leaves_node _ query)
      fun _ => leaves_node_of_except _
  have assembled (query : Query) :=
    sources.parts_leave_node.assemble_found leaves_node_composable schedule (found query)
  cases key with
  | hash hash => exact assembled (.blockByHash hash)
  | id id => exact assembled (.blockByHash id)
  | hashText text =>
      rw [blockAtInTurns]
      cases BlockHash.parse text with
      | error fault => exact leaves_node_of_except (.error (.client fault))
      | ok hash => exact assembled (.blockByHash hash)
  | height height =>
      rw [blockAtInTurns, byHeightInTurns]
      split
      · exact leaves_node_of_except (.error _)
      split
      · exact leaves_node_of_except (.error _)
      exact assembled (.blockByHeight height)

end Sources

/-- A lookup reads what it shows and nothing else: in two worlds that share the block it is the same
run, whatever else the worlds hold and whatever their nodes reply, also with transactions classified
in turns. It leaves the node alone. -/
theorem block_lookups_read_what_they_show (checksums : Checksums) (first second : World)
    (key : BlockKey) (shares : first.SharesBlock second key) :
    (first.sources checksums).blockAt key = (second.sources checksums).blockAt key ∧
    ((first.sources checksums).blockAt key).LeavesNode ∧
    ∀ (fanout : Nat) (schedule : Schedule fanout),
      (first.sources checksums).blockAtInTurns schedule key =
        (second.sources checksums).blockAtInTurns schedule key ∧
      ((first.sources checksums).blockAtInTurns schedule key).LeavesNode := by
  have same {fanout : Nat} (schedule : Schedule fanout) :=
    shares.block_at_in_turns_congr checksums schedule
  have left {fanout : Nat} (schedule : Schedule fanout) :=
    (first.sources checksums).block_at_in_turns_leaves_node schedule key
  have inOrder (sources : Sources) := sources.block_at_in_order Nat.one_pos key
  refine ⟨?_, ?_, fun fanout schedule => ⟨same schedule, left schedule⟩⟩
  · rw [← inOrder, ← inOrder]
    exact same _
  · rw [← inOrder]
    exact left _

namespace SmallStore

/-- The first block is as in the small store, and little else is: there is a row before it that is
no block and one behind it with the same id, a record of the wrapped transaction that cannot be
read, a second record of a decrypted one, and a node that is out of reach. -/
def changedWorld : World where
  tables :=
    { blocks := [Value.withNames [("block_id", .bytes [4])], blockRow [1] 5, blockRow [1] 8]
      txHashes := entryRow [4] [0xA] .decrypted :: tables.txHashes
      transactions :=
        [Value.withNames [("hash", .bytes [0xA])], recordRow [0xB] (.bytes [0xAB]),
          recordRow [0xB] (.list []), recordRow [0xD] (.bytes [0xEF])] }
  fault? _ := none
  node := ⟨fun _ => .error ⟨.connect, []⟩, .error ⟨.connect, []⟩⟩

theorem first_block_read {row : Row} (found : row ∈ tables.rowAt? (.hash [1]))
    {stored : StoredBlock} (read : Store.readBlock row = .ok stored) :
    stored = ⟨[1], header 5, none⟩ := by
  have first : row = blockRow [1] 5 := (Option.some.inj found).symm
  subst first
  exact Except.ok.inj (read.symm.trans first_block_readable.block)

theorem shares_first_block : world.SharesBlock changedWorld (.hash [1]) where
  faults := rfl
  row := rfl
  index row found stored read := by
    cases first_block_read found read
    rfl
  records row found stored read others readable entry member decrypted := by
    cases first_block_read found read
    have listed : others = entries := Except.ok.inj (readable.symm.trans rfl)
    subst listed
    simp only [entries, List.mem_cons, List.not_mem_nil, or_false] at member
    rcases member with rfl | rfl | rfl | rfl | rfl
    · cases decrypted
    all_goals rfl

end SmallStore

theorem block_lookups_read_what_they_show_changed_world :
    SmallStore.world.SharesBlock SmallStore.changedWorld (.hash [1]) ∧
      ((SmallStore.changedWorld.sources SmallStore.checksums).byHash [1]).Yields
        (.ok (some SmallStore.firstBlock)) := by
  have same : (SmallStore.world.sources SmallStore.checksums).byHash [1] =
      (SmallStore.changedWorld.sources SmallStore.checksums).byHash [1] :=
    (block_lookups_read_what_they_show SmallStore.checksums SmallStore.world
      SmallStore.changedWorld (.hash [1]) SmallStore.shares_first_block).1
  refine ⟨SmallStore.shares_first_block, ?_⟩
  rw [← same]
  exact Sources.by_hash_yields SmallStore.reliable SmallStore.checksums [1]

end BlockExplorer
