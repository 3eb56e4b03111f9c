import BlockExplorer.Lookup.World
import BlockExplorer.Proofs.Rows
import BlockExplorer.Proofs.Runs

/-!
What the steps of a lookup come to when the database answers: each is a function of the tables, and
of the node where an epoch is wanted. The functions say what is read, in which order it is refused,
and nothing about sessions.
-/

namespace BlockExplorer

namespace Tables

def blockWithId? (tables : Tables) (id : Bytes) : Option Row :=
  tables.blocks.find? fun row => row.hasBytes BlockColumn.blockId.name id

def blockAtHeight? (tables : Tables) (height : Int) : Option Row :=
  tables.blocks.find? fun row => row.height? = some height

def index (tables : Tables) (blockId : Bytes) : List Row :=
  tables.txHashes.filter fun row => row.hasBytes "block_id" blockId

def record? (tables : Tables) (hash : Bytes) : Option Row :=
  tables.transactions.find? fun row => row.hasBytes "hash" hash

/-- At most `count` rows of blocks from the highest downward, behind the first `offset`. -/
def window (tables : Tables) (count : Int) (offset : Option Int) : List Row :=
  ((byHeight tables.blocks).drop (offset.getD 0).toNat).take count.toNat

theorem start_nonneg {offset : Option Int} (shifted : ∀ start ∈ offset, 0 ≤ start) :
    0 ≤ offset.getD 0 := by
  cases offset with
  | none => exact Int.le_refl 0
  | some start => exact shifted start rfl

end Tables

/-- The kind of a stored transaction: its code is there, the table of checksums knows it, and the
program belongs to a kind. -/
def StoredTx.programKind? (checksums : Checksums) (record : StoredTx) : Option TxKind := do
  let code ← record.code.filter fun code => !code.isEmpty
  let program ← checksums.lookup (Hex.lower code)
  TxKind.programs.lookup program

def StoredTx.shownLabel (checksums : Checksums) (record : StoredTx) : Text :=
  Text.ofString (TxKind.label (record.programKind? checksums))

namespace StoredTx

variable {checksums : Checksums} {record : StoredTx}

theorem program_kind_of_decoded {decoded : DecodedTx}
    (found : record.decode checksums = .ok decoded) :
    record.programKind? checksums = decoded.kind := by
  unfold decode decodeWith at found
  split at found
  · cases found
  · cases found
  · next code filled coded =>
      split at found
      · cases found
      · next program known =>
          have solid : code.isEmpty = false := by
            cases code with
            | nil => exact (filled rfl).elim
            | cons byte rest => rfl
          rw [← Except.ok.inj found, programKind?, coded]
          simp only [Option.filter_some, solid, Bool.not_false, if_true, Option.bind_eq_bind,
            Option.bind_some, known]

theorem program_kind_of_fault {fault : DecodeFault}
    (failed : record.decode checksums = .error fault) :
    record.programKind? checksums = none := by
  unfold decode decodeWith at failed
  split at failed
  · next absent => simp [programKind?, absent]
  · next empty => simp [programKind?, empty]
  · next code filled coded =>
      split at failed
      · next unknown => simp [programKind?, coded, unknown]
      · cases failed

end StoredTx

namespace Tables

variable (tables : Tables) (checksums : Checksums)

def summarize (entry : IndexEntry) : Except Failure (Option LabelledTx) :=
  match entry.kind with
  | .wrapper => .ok (some ⟨Text.ofString EntryKind.wrapper.name, entry.hash⟩)
  | .decrypted =>
      (Store.readSome Store.readRecord (tables.record? entry.hash)).map fun record =>
        record.map fun record => ⟨record.shownLabel checksums, entry.hash⟩

def display (row : StoredBlock) : Except Failure Block :=
  ((tables.index row.blockId).mapM Store.readEntry).bind fun entries =>
    (entries.mapM (tables.summarize checksums)).map fun summaries =>
      ⟨row.blockId, row.header, row.lastCommit, summaries.filterMap id⟩

def displaySome (row : Option Row) : Except Failure (Option Block) :=
  (Store.readSome Store.readBlock row).bind fun stored =>
    match stored with
    | none => .ok none
    | some stored => (tables.display checksums stored).map some

end Tables

namespace World

variable (world : World) (checksums : Checksums)

/-- No query of a table meets a fault. -/
def Reliable : Prop := ∀ table : Table, world.fault? (some table) = none

def withEpoch (block : Block) : Except Failure EpochBlock :=
  (world.node.epochOf block.header.height).map fun epoch => ⟨block, epoch⟩

def epochBlock (row : StoredBlock) : Except Failure EpochBlock :=
  (world.tables.display checksums row).bind world.withEpoch

/-- What a page of the latest blocks comes to. All rows are read before any block is looked at. -/
def pageOf (rows : List Row) : Except Failure Latest :=
  (rows.mapM Store.readBlock).bind fun stored =>
    (stored.mapM (world.epochBlock checksums)).map Latest.page

end World

theorem Row.nonempty_of_cell {row : Row} {column : BlockColumn}
    (present : (row.cell? column).isSome) : row.isEmpty = false := by
  cases row with
  | nil => simp [Row.cell?, Value.member?] at present
  | cons cell rest => rfl

theorem Row.nonempty_of_has_bytes {row : Row} {column : String} {wanted : Bytes}
    (matched : row.hasBytes column wanted = true) : row.isEmpty = false := by
  cases row with
  | nil => simp [Row.hasBytes, Value.member?] at matched
  | cons cell rest => rfl

theorem Row.nonempty_of_height {row : Row} {height : Int} (matched : row.height? = some height) :
    row.isEmpty = false := by
  cases row with
  | nil => simp [Row.height?, Row.cell?, Value.member?] at matched
  | cons cell rest => rfl

/-- A row that is found is not empty, so the first match is the one that counts. -/
theorem filter_find?_of_nonempty {matches? : Row → Bool} {rows : List Row}
    (solid : ∀ row, matches? row = true → row.isEmpty = false) :
    (rows.find? matches?).filter (fun row => !row.isEmpty) = rows.find? matches? := by
  cases found : rows.find? matches? with
  | none => rfl
  | some row => simp [solid row (List.find?_some found)]

namespace World

open Explore

variable {world : World}

theorem Reliable.reply_eq (reliable : world.Reliable) {query : Query} {table : Table}
    (asked : query.table? = some table) :
    world.reply query = .ok (world.tables.answer query) := by
  rw [reply, asked, reliable table]

theorem Reliable.ask_yields (reliable : world.Reliable) {query : Query} {table : Table}
    (asked : query.table? = some table) :
    (Store.ask (some world.connection) query).Yields (.ok (world.tables.answer query)) := by
  have answered := Store.ask_yields world.connection query
  rw [reply_connection, reliable.reply_eq asked] at answered
  exact answered

theorem ask_one_yields_of_answered {query : Query} {rows : List Row} {matches? : Row → Bool}
    (answered : world.reply query = .ok (rows.filter matches?))
    (solid : ∀ row, matches? row = true → row.isEmpty = false) :
    (Store.askOne (some world.connection) query).Yields (.ok (rows.find? matches?)) := by
  have asked := Store.ask_one_yields world.connection query
  rw [reply_connection, answered] at asked
  simp only [Except.mapError, Except.map, List.head?_filter,
    filter_find?_of_nonempty solid] at asked
  exact asked

theorem Reliable.ask_one_yields (reliable : world.Reliable) {query : Query} {table : Table}
    {rows : List Row} {matches? : Row → Bool} (asked : query.table? = some table)
    (answered : world.tables.answer query = rows.filter matches?)
    (solid : ∀ row, matches? row = true → row.isEmpty = false) :
    (Store.askOne (some world.connection) query).Yields (.ok (rows.find? matches?)) := by
  apply ask_one_yields_of_answered _ solid
  rw [reliable.reply_eq asked, answered]

theorem Reliable.block_by_hash_yields (reliable : world.Reliable) (hash : Bytes) :
    (Store.blockByHash (some world.connection) hash).Yields
      (Store.readSome Store.readBlock (world.tables.blockWithId? hash)) :=
  (reliable.ask_one_yields rfl rfl fun _ => Row.nonempty_of_has_bytes).bind_ok (yields_of_except _)

theorem Reliable.block_by_height_yields (reliable : world.Reliable) (height : Int) :
    (Store.blockByHeight (some world.connection) height).Yields
      (Store.readSome Store.readBlock (world.tables.blockAtHeight? height)) := by
  refine (reliable.ask_one_yields rfl rfl fun row matched => ?_).bind_ok (yields_of_except _)
  exact Row.nonempty_of_height (of_decide_eq_true matched)

theorem Reliable.latest_blocks_yields (reliable : world.Reliable) (count : Int)
    (offset : Option Int) :
    (Store.latestBlocks (some world.connection) count offset).Yields
      ((world.tables.window count offset).mapM Store.readBlock) := by
  refine (reliable.ask_yields rfl).bind_ok ?_
  rw [← Collecting.read_all_eq_map_m]
  exact yields_of_except _

theorem Reliable.entries_yields (reliable : world.Reliable) (blockId : Bytes) :
    (Store.txHashEntries (some world.connection) blockId).Yields
      ((world.tables.index blockId).mapM Store.readEntry) := by
  refine (reliable.ask_yields rfl).bind_ok ?_
  rw [← Collecting.read_all_eq_map_m]
  exact yields_of_except _

/-- A record is read as long as its own table answers. -/
theorem record_yields (answers : world.fault? (some .transactions) = none) (hash : Bytes) :
    (Store.txRecord (some world.connection) hash).Yields
      (Store.readSome Store.readRecord (world.tables.record? hash)) := by
  have answered : world.reply (.transaction hash) =
      .ok (world.tables.transactions.filter fun row => row.hasBytes "hash" hash) := by
    rw [reply, Query.table?, answers]
    rfl
  have found := ask_one_yields_of_answered answered fun _ => Row.nonempty_of_has_bytes
  exact found.bind_ok (yields_of_except _)

end World

namespace Sources

open Explore

theorem label_yields (sources : Sources) (record : StoredTx) :
    (sources.label record).Yields (.ok (record.shownLabel sources.checksums)) := by
  rw [Sources.label, StoredTx.shownLabel]
  cases decoded : record.decode sources.checksums with
  | ok found =>
      rw [StoredTx.program_kind_of_decoded decoded]
      exact yields_pure _
  | error fault =>
      rw [StoredTx.program_kind_of_fault decoded]
      exact yields_count_decode_failure.bind_ok (yields_pure _)

theorem classify_yields {world : World} (checksums : Checksums) {entry : IndexEntry}
    (answers : entry.kind = .decrypted → world.fault? (some .transactions) = none) :
    ((world.sources checksums).classify entry).Yields
      (world.tables.summarize checksums entry) := by
  unfold Sources.classify Tables.summarize
  cases kind : entry.kind with
  | wrapper => exact yields_pure _
  | decrypted =>
      refine (World.record_yields (answers kind) entry.hash).bind_map fun record => ?_
      cases record with
      | none => exact yields_pure _
      | some record => exact (label_yields _ record).bind_ok (yields_pure _)

variable {world : World} (reliable : world.Reliable) (checksums : Checksums)

include reliable

theorem classify_all_yields (entries : List IndexEntry) :
    ((world.sources checksums).classifyAll entries).Yields
      (entries.mapM (world.tables.summarize checksums)) := by
  induction entries with
  | nil => exact yields_pure _
  | cons entry rest induction =>
      rw [Collecting.map_m_cons_eq]
      exact (classify_yields checksums fun _ => reliable .transactions).bind fun _ _ =>
        induction.bind fun _ _ => yields_pure _

theorem assemble_yields (row : StoredBlock) :
    ((world.sources checksums).assemble row).Yields (world.tables.display checksums row) :=
  (reliable.entries_yields row.blockId).bind fun entries _ =>
    (classify_all_yields reliable checksums entries).bind_map fun _ => yields_pure _

theorem assemble_found_yields {search : Explore (Option StoredBlock)} {row : Option Row}
    (found : search.Yields (Store.readSome Store.readBlock row)) :
    (search >>= (world.sources checksums).assembleSome).Yields
      (world.tables.displaySome checksums row) := by
  refine found.bind fun stored _ => ?_
  cases stored with
  | none => exact yields_pure _
  | some stored => exact (assemble_yields reliable checksums stored).map some

theorem by_hash_yields (hash : Bytes) :
    ((world.sources checksums).byHash hash).Yields
      (world.tables.displaySome checksums (world.tables.blockWithId? hash)) :=
  assemble_found_yields reliable checksums (reliable.block_by_hash_yields hash)

theorem annotate_yields (row : StoredBlock) :
    ((world.sources checksums).annotate row).Yields (world.epochBlock checksums row) :=
  (assemble_yields reliable checksums row).bind fun block _ =>
    (world.node.epoch_yields block.header.height).bind_map fun _ => yields_pure _

theorem annotate_all_yields (rows : List StoredBlock) :
    ((world.sources checksums).annotateAll rows).Yields
      (rows.mapM (world.epochBlock checksums)) := by
  induction rows with
  | nil => exact yields_pure _
  | cons row rest induction =>
      rw [Collecting.map_m_cons_eq]
      exact (annotate_yields reliable checksums row).bind fun _ _ =>
        induction.bind fun _ _ => yields_pure _

theorem page_yields {count : Int} {offset : Option Int} (counted : 0 ≤ count)
    (shifted : ∀ start ∈ offset, 0 ≤ start) :
    ((world.sources checksums).latest (some count) offset).Yields
      (world.pageOf checksums (world.tables.window count offset)) := by
  have start : 0 ≤ offset.getD 0 := Tables.start_nonneg shifted
  rw [latest, page, if_neg (by omega), if_neg (by omega)]
  exact (reliable.latest_blocks_yields count offset).bind fun stored _ =>
    (annotate_all_yields reliable checksums stored).bind_map fun _ => yields_pure _

end Sources

end BlockExplorer
