import BlockExplorer.Proofs.Blocks
import BlockExplorer.Proofs.Turns

/-!
What a lookup of one block gives, for all tables that a database may answer with: nothing where no
row matches, the block of the first row that does, or the report of a malformed row. The order in
which the summaries of its transactions come in makes no difference to this.
-/

namespace BlockExplorer

namespace Tables

/-- The result that a lookup must have when `row?` is the row that matches. -/
structure Answers (tables : Tables) (checksums : Checksums) (row? : Option Row)
    (result : Except Failure (Option Block)) : Prop where
  absent : result = .ok none ↔ row? = none
  shown : ∀ row ∈ row?, ∀ stored entries, tables.Readable row stored entries →
    result = .ok (some
      { blockId := stored.blockId
        header := stored.header
        lastCommit := stored.lastCommit
        transactions := entries.filterMap (tables.summary? checksums) })
  refused : ∀ row ∈ row?, (¬∃ stored entries, tables.Readable row stored entries) →
    ∃ table fields, result = .error (.store (.malformedRow table fields))

variable {tables : Tables}

theorem display_some_answers (checksums : Checksums) (complete : tables.Complete)
    {row? : Option Row} (listed : ∀ row ∈ row?, row ∈ tables.blocks) :
    tables.Answers checksums row? (tables.displaySome checksums row?) := by
  cases row? with
  | none =>
      refine ⟨⟨fun _ => rfl, fun _ => rfl⟩, ?_, ?_⟩
      · intro row member
        cases member
      · intro row member
        cases member
  | some row =>
      rw [display_some_eq_map]
      refine ⟨?_, ?_, ?_⟩
      · cases tables.blockOf checksums row <;> simp [Except.map]
      · intro other member stored entries readable
        cases member
        rw [block_of_eq_ok_iff.mpr ⟨stored, entries, readable, rfl⟩]
        rfl
      · intro other member unreadable
        cases member
        cases found : tables.blockOf checksums row with
        | ok block =>
            obtain ⟨stored, entries, readable, _⟩ := block_of_eq_ok_iff.mp found
            exact absurd ⟨stored, entries, readable⟩ unreadable
        | error failure =>
            obtain ⟨table, fields, rfl⟩ :=
              block_of_error_is_malformed complete (listed row rfl) found
            exact ⟨table, fields, rfl⟩

end Tables

/-- The same content, or failures of which the second may be due to another malformed row. -/
inductive Agree {α : Type} : Except Failure α → Except Failure α → Prop where
  | content (content : α) : Agree (.ok content) (.ok content)
  | failure (first second : Failure) (other : second = first ∨ second.IsMalformedRow) :
      Agree (.error first) (.error second)

theorem Agree.refl {α : Type} (result : Except Failure α) : Agree result result := by
  cases result with
  | ok content => exact .content content
  | error failure => exact .failure failure failure (.inl rfl)

theorem Agree.eq_ok {α : Type} {first : Except Failure α} {content : α}
    (agree : Agree first (.ok content)) : first = .ok content := by
  cases agree
  rfl

theorem Agree.of_ok {α : Type} {content : α} {second : Except Failure α}
    (agree : Agree (.ok content) second) : second = .ok content := by
  cases agree
  rfl

theorem Agree.eq_error {α : Type} {first : Except Failure α} {failure : Failure}
    (agree : Agree first (.error failure)) :
    ∃ other, first = .error other ∧ (failure = other ∨ failure.IsMalformedRow) := by
  cases agree with
  | failure other _ same => exact ⟨other, rfl, same⟩

theorem Agree.map {α β : Type} {first second : Except Failure α} (agree : Agree first second)
    (f : α → β) : Agree (first.map f) (second.map f) := by
  cases agree with
  | content content => exact .content (f content)
  | failure left right other => exact .failure left right other

theorem Agree.bind {α β : Type} {first second : Except Failure α} {f g : α → Except Failure β}
    (agree : Agree first second) (next : ∀ content, Agree (f content) (g content)) :
    Agree (first.bind f) (second.bind g) := by
  cases agree with
  | content content => exact next content
  | failure left right other => exact .failure left right other

theorem Tables.Answers.of_agree {tables : Tables} {checksums : Checksums} {row? : Option Row}
    {first second : Except Failure (Option Block)} (answers : tables.Answers checksums row? first)
    (agree : Agree first second) : tables.Answers checksums row? second := by
  cases agree with
  | content content => exact answers
  | failure left right other =>
      have present : row? ≠ none := by
        intro missing
        cases answers.absent.mpr missing
      refine ⟨⟨fun same => (by cases same), fun missing => absurd missing present⟩, ?_, ?_⟩
      · intro row member stored entries readable
        cases answers.shown row member stored entries readable
      -- Another malformed row may be reported in place of the first one.
      · intro row member unreadable
        obtain ⟨table, fields, same⟩ := answers.refused row member unreadable
        rcases other with rfl | malformed
        · exact ⟨table, fields, same⟩
        · obtain ⟨otherTable, otherFields, rfl⟩ := malformed
          exact ⟨otherTable, otherFields, rfl⟩

namespace Sources

open Explore

variable {world : World} {fanout : Nat}

theorem assemble_by_agrees (reliable : world.Reliable) (checksums : Checksums)
    (orders : TaskOrders) (row : StoredBlock) :
    ∃ result, ((world.sources checksums).assembleBy orders row).Yields result ∧
      Agree (world.tables.display checksums row) result := by
  have entriesRead := reliable.entries_yields row.blockId
  have classified (entry : IndexEntry) :=
    classify_yields checksums fun (_ : entry.kind = .decrypted) => reliable .transactions
  cases index : (world.tables.index row.blockId).mapM Store.readEntry with
  | error failure =>
      rw [index] at entriesRead
      refine ⟨.error failure, entriesRead.bind_error, ?_⟩
      rw [Tables.display, index]
      exact Agree.refl _
  | ok entries =>
      rw [index] at entriesRead
      have complete := (orders entries.length).complete
      rw [Tables.display, index]
      cases collected : entries.mapM (world.tables.summarize checksums) with
      | ok summaries =>
          have gathered := gather_yields_ok classified complete collected
          refine ⟨_, entriesRead.bind_ok (gathered.bind_ok (yields_pure _)), ?_⟩
          simp only [Except.bind, collected, Except.map]
          exact Agree.refl _
      | error failure =>
          obtain ⟨entry, _, other, failed, gathered⟩ :=
            gather_yields_error classified complete collected
          refine ⟨_, entriesRead.bind_ok gathered.bind_error, ?_⟩
          simp only [Except.bind, collected, Except.map]
          exact .failure failure other (.inr (Tables.summarize_error_is_malformed failed))

theorem assemble_found_in_turns_agrees (reliable : world.Reliable) (checksums : Checksums)
    (schedule : Schedule fanout) {search : Explore (Option StoredBlock)} {row : Option Row}
    (found : search.Yields (Store.readSome Store.readBlock row)) :
    ∃ result,
      (search >>= (world.sources checksums).assembleSomeInTurns schedule).Yields result ∧
        Agree (world.tables.displaySome checksums row) result := by
  rw [Tables.displaySome]
  cases block : Store.readSome Store.readBlock row with
  | error failure =>
      rw [block] at found
      exact ⟨.error failure, found.bind_error, Agree.refl _⟩
  | ok stored =>
      rw [block] at found
      cases stored with
      | none => exact ⟨.ok none, found.bind_ok (yields_pure none), Agree.refl _⟩
      | some stored =>
          obtain ⟨result, assembled, agree⟩ :=
            assemble_by_agrees reliable checksums schedule.orders stored
          exact ⟨result.map some, found.bind_ok (assembled.map some), agree.map some⟩

theorem found_in_turns_answers {checksums : Checksums} (reliable : world.Reliable)
    (complete : world.tables.Complete) (schedule : Schedule fanout)
    {search : Explore (Option StoredBlock)} {row? : Option Row}
    (found : search.Yields (Store.readSome Store.readBlock row?))
    (listed : ∀ row ∈ row?, row ∈ world.tables.blocks) (session : Session) :
    world.tables.Answers checksums row?
      ((search >>= (world.sources checksums).assembleSomeInTurns schedule).outcome session).1 := by
  obtain ⟨result, yields, agree⟩ :=
    assemble_found_in_turns_agrees reliable checksums schedule found
  rw [yields session]
  exact (Tables.display_some_answers checksums complete listed).of_agree agree

end Sources

structure World.AnswersLookups (world : World) (checksums : Checksums) (session : Session)
    (byHash byId : Bytes → Explore (Option Block)) (byHeight : Int → Explore (Option Block)) :
    Prop where
  hash : ∀ hash, world.tables.Answers checksums (world.tables.blockWithId? hash)
    ((byHash hash).outcome session).1
  id : ∀ id, world.tables.Answers checksums (world.tables.blockWithId? id)
    ((byId id).outcome session).1
  height : ∀ height, 0 ≤ height → height ≤ 9223372036854775807 →
    world.tables.Answers checksums (world.tables.blockAtHeight? height)
      ((byHeight height).outcome session).1

namespace Tables

theorem block_with_id?_mem (tables : Tables) (id : Bytes) :
    ∀ row ∈ tables.blockWithId? id, row ∈ tables.blocks :=
  fun _ found => List.mem_of_find?_eq_some found

theorem block_at_height?_mem (tables : Tables) (height : Int) :
    ∀ row ∈ tables.blockAtHeight? height, row ∈ tables.blocks :=
  fun _ found => List.mem_of_find?_eq_some found

end Tables

/-- Whatever the tables hold, a lookup of one block finds nothing exactly where no row matches,
shows the block with the summaries of its index where all that belongs to it can be read, and
otherwise fails for a malformed row. This does not depend on how many transactions are classified at
a time, nor on the order in which they are done. -/
theorem single_block_lookups_answer (world : World) (checksums : Checksums) (session : Session)
    (reliable : world.Reliable) (complete : world.tables.Complete) :
    let sources := world.sources checksums
    world.AnswersLookups checksums session sources.byHash sources.byId sources.byHeight ∧
      ∀ (fanout : Nat) (schedule : Schedule fanout),
        world.AnswersLookups checksums session (sources.byHashInTurns schedule)
          (sources.byIdInTurns schedule) (sources.byHeightInTurns schedule) := by
  intro sources
  have inTurns : ∀ (fanout : Nat) (schedule : Schedule fanout),
      world.AnswersLookups checksums session (sources.byHashInTurns schedule)
        (sources.byIdInTurns schedule) (sources.byHeightInTurns schedule) := by
    intro fanout schedule
    refine ⟨fun hash => ?_, fun id => ?_, fun height lower upper => ?_⟩
    · exact Sources.found_in_turns_answers reliable complete schedule
        (reliable.block_by_hash_yields hash) (world.tables.block_with_id?_mem hash) session
    · exact Sources.found_in_turns_answers reliable complete schedule
        (reliable.block_by_hash_yields id) (world.tables.block_with_id?_mem id) session
    · have limit : maxHeight = 9223372036854775807 := by decide
      rw [Sources.byHeightInTurns, if_neg (by omega), if_neg (by omega)]
      exact Sources.found_in_turns_answers reliable complete schedule
        (reliable.block_by_height_yields height) (world.tables.block_at_height?_mem height) session
  have inOrder := inTurns 1 (Schedule.inOrder Nat.one_pos)
  rw [Sources.by_hash_in_order, Sources.by_id_in_order, Sources.by_height_in_order] at inOrder
  exact ⟨inOrder, inTurns⟩

namespace SmallStore

def blockRow (id : Bytes) (height : Int) : Row :=
  BlockColumn.all.map fun column =>
    (Text.ofString column.name,
      match column with
      | .blockId => .bytes id
      | .header .chainId => .word "chain"
      | .header .height => .int height
      | .header .time => .word "noon"
      | _ => .null)

def entryRow (blockId hash : Bytes) (kind : EntryKind) : Row :=
  Value.withNames
    [("block_id", .bytes blockId), ("hash", .bytes hash), ("tx_type", .word kind.name)]

def recordRow (hash : Bytes) (code : Value) : Row :=
  Value.withNames
    [("hash", .bytes hash), ("block_id", .bytes [1]), ("tx_type", .word "Decrypted"),
      ("code", code), ("data", .null)]

def header (height : Nat) : BlockHeader where
  versionApp := none
  versionBlock := none
  chainId := Text.ofString "chain"
  height := height
  time := .written (Text.ofString "noon")
  lastBlockId := BlockId.empty
  lastCommitHash := none
  dataHash := none
  validatorsHash := none
  nextValidatorsHash := none
  consensusHash := none
  appHash := none
  lastResultsHash := none
  evidenceHash := none
  proposerAddress := none

/-- The first block has an entry of each sort, one of them twice; the others have none. -/
def tables : Tables where
  blocks := [blockRow [1] 5, blockRow [2] 9, blockRow [3] 7]
  txHashes :=
    [entryRow [1] [0xA] .wrapper, entryRow [1] [0xB] .decrypted, entryRow [1] [0xC] .decrypted,
      entryRow [1] [0xB] .decrypted, entryRow [1] [0xD] .decrypted]
  transactions := [recordRow [0xB] (.bytes [0xAB]), recordRow [0xD] (.bytes [0xEF])]

def checksums : Checksums := [(Text.ofString "ab", Text.ofString "tx_bond")]

/-- An epoch lasts four blocks. -/
def world : World where
  tables := tables
  fault? _ := none
  node :=
    { epochAt := fun height => .ok (NodeReply.ofEpoch (some (height.toNat / 4)))
      health := .ok ⟨200, []⟩ }

def entries : List IndexEntry :=
  [⟨[0xA], .wrapper⟩, ⟨[0xB], .decrypted⟩, ⟨[0xC], .decrypted⟩, ⟨[0xB], .decrypted⟩,
    ⟨[0xD], .decrypted⟩]

def firstBlock : Block where
  blockId := [1]
  header := header 5
  lastCommit := none
  transactions :=
    [⟨Text.ofString "Wrapper", [0xA]⟩, ⟨Text.ofString "Bond", [0xB]⟩,
      ⟨Text.ofString "Bond", [0xB]⟩, ⟨Text.ofString "Decrypted", [0xD]⟩]

theorem block_row_has_columns (id : Bytes) (height : Int) (column : BlockColumn) :
    ((blockRow id height).cell? column).isSome := by
  cases column with
  | header field => cases field <;> rfl
  | _ => rfl

theorem reliable : world.Reliable := fun _ => rfl

theorem complete : tables.Complete where
  blocks := by
    intro row member
    simp only [tables, List.mem_cons, List.not_mem_nil, or_false] at member
    rcases member with rfl | rfl | rfl <;> exact block_row_has_columns _ _
  txHashes := by
    intro row member
    simp only [tables, List.mem_cons, List.not_mem_nil, or_false] at member
    rcases member with rfl | rfl | rfl | rfl | rfl <;> exact ⟨rfl, rfl⟩

theorem first_block_readable :
    tables.Readable (blockRow [1] 5) ⟨[1], header 5, none⟩ entries where
  block := rfl
  index := Collecting.map_m_eq_ok_iff.mp rfl
  records := by
    intro entry member decrypted
    simp only [entries, List.mem_cons, List.not_mem_nil, or_false] at member
    rcases member with rfl | rfl | rfl | rfl | rfl
    · cases decrypted
    · rintro row found
      cases found
      exact ⟨_, rfl⟩
    · rintro row found
      cases found
    · rintro row found
      cases found
      exact ⟨_, rfl⟩
    · rintro row found
      cases found
      exact ⟨_, rfl⟩

end SmallStore

/-- The lookups at a store with a wrapped entry, a known program stored under two entries, a record
that is missing and one with an unknown code. -/
theorem single_block_lookups_answer_small_store :
    SmallStore.world.Reliable ∧ SmallStore.tables.Complete ∧
      (((SmallStore.world.sources SmallStore.checksums).byHash [1]).outcome Session.start).1 =
        .ok (some SmallStore.firstBlock) := by
  have answers := single_block_lookups_answer SmallStore.world SmallStore.checksums Session.start
    SmallStore.reliable SmallStore.complete
  have shown := (answers.1.hash [1]).shown (SmallStore.blockRow [1] 5) rfl _ _
    SmallStore.first_block_readable
  exact ⟨SmallStore.reliable, SmallStore.complete, shown.trans rfl⟩

end BlockExplorer
