import BlockExplorer.Proofs.ChainGrowth
import BlockExplorer.Proofs.Scheduling

/-!
Records that arrive late. Where rows are put behind the records of transactions, whatever was found
before is found again, and a block shows what it showed, in the same order; what it shows besides
are the decrypted transactions of its index that had no record and have one now. A row that repeats
the hash of an earlier one, or that belongs to a wrapped transaction, changes nothing.
-/

namespace BlockExplorer

open Collecting Explore

namespace Explore

variable {α β γ δ : Type}

/-- Whatever the run finds in some session, the other one finds something related to it in every
session. -/
def KeptBy (run : Explore α) (related : α → β → Prop) (other : Explore β) : Prop :=
  ∀ content, run.Finds content → ∃ later, other.Yields (.ok later) ∧ related content later

theorem Uniform.kept {run : Explore α} (uniform : run.Uniform) : run.KeptBy Eq run := by
  intro content found
  exact ⟨content, uniform.yields_of_finds found, rfl⟩

theorem kept_by_pure {related : α → β → Prop} {content : α} {later : β}
    (same : related content later) :
    (pure content : Explore α).KeptBy related (pure later : Explore β) := by
  intro found finds
  rw [eq_of_finds_pure finds]
  exact ⟨later, yields_pure later, same⟩

theorem KeptBy.bind {run : Explore α} {other : Explore β} {related : α → β → Prop}
    {next : α → Explore γ} {behind : β → Explore δ} {further : γ → δ → Prop}
    (first : run.KeptBy related other)
    (second : ∀ content later, run.Finds content → related content later →
      (next content).KeptBy further (behind later)) :
    (run >>= next).KeptBy further (other >>= behind) := by
  intro content found
  obtain ⟨middle, head, tail⟩ := finds_bind found
  obtain ⟨later, headYields, same⟩ := first middle head
  obtain ⟨last, tailYields, done⟩ := second middle later head same content tail
  exact ⟨last, headYields.bind_ok tailYields, done⟩

theorem KeptBy.mono {run : Explore α} {other : Explore β} {related wider : α → β → Prop}
    (kept : run.KeptBy related other)
    (follows : ∀ content later, related content later → wider content later) :
    run.KeptBy wider other := by
  intro content found
  obtain ⟨later, yields, same⟩ := kept content found
  exact ⟨later, yields, follows content later same⟩

theorem KeptBy.map {run : Explore α} {other : Explore β} {related : γ → δ → Prop} {f : α → γ}
    {g : β → δ} (kept : run.KeptBy (fun content later => related (f content) (g later)) other) :
    (f <$> run).KeptBy related (g <$> other) := by
  rw [map_eq_pure_bind, map_eq_pure_bind]
  apply kept.bind
  intro content later _ same
  exact kept_by_pure same

/-- What fails finds nothing. -/
theorem kept_by_fail {related : α → β → Prop} (failure : Failure) (other : Explore β) :
    (fail failure : Explore α).KeptBy related other := by
  rintro content ⟨session, after, outcome⟩
  cases outcome

theorem KeptBy.behind_guard {run : Explore α} {other : Explore β} {related : α → β → Prop}
    {refused : Prop} [Decidable refused] {failure : Failure} (kept : run.KeptBy related other) :
    (if refused then fail failure else run).KeptBy related
      (if refused then fail failure else other) := by
  by_cases refusal : refused
  · rw [if_pos refusal, if_pos refusal]
    exact kept_by_fail failure _
  · rw [if_neg refusal, if_neg refusal]
    exact kept

theorem KeptBy.alike {run first : Explore α} {other second : Explore β} {related : α → β → Prop}
    (kept : run.KeptBy related other) (uniform : first.Uniform) (left : first.SeenAlike run)
    (right : second.SeenAlike other) : first.KeptBy related second := by
  intro content found
  have yields := left.yields_ok (uniform.yields_of_finds found)
  obtain ⟨later, again, same⟩ := kept content yields.finds
  exact ⟨later, right.symm.yields_ok again, same⟩

theorem one_by_one_kept {related : β → γ → Prop} {task : α → Explore β} {other : α → Explore γ}
    (kept : ∀ item, (task item).KeptBy related (other item)) (items : List α) :
    (oneByOne task items).KeptBy (List.Forall₂ related) (oneByOne other items) := by
  induction items with
  | nil => exact kept_by_pure .nil
  | cons item rest induction =>
      apply (kept item).bind
      intro first later _ head
      apply induction.bind
      intro others behind _ tail
      exact kept_by_pure (.cons head tail)

end Explore

def Tables.withRecords (tables : Tables) (rows : List Row) : Tables :=
  { tables with transactions := tables.transactions ++ rows }

def World.withRecords (world : World) (rows : List Row) : World :=
  { world with tables := world.tables.withRecords rows }

namespace Tables

/-- The transaction of an entry had no record and has one now. -/
def arrived (old grown : Tables) (entry : IndexEntry) : Bool :=
  entry.kind = .decrypted && (old.record? entry.hash).isNone && (grown.record? entry.hash).isSome

/-- The summary of an entry is there once its record has arrived, and otherwise is what it was. -/
inductive Fills (old grown : Tables) (checksums : Checksums) (entry : IndexEntry) :
    Option LabelledTx → Option LabelledTx → Prop
  | kept {summary : Option LabelledTx} (absent : ¬old.arrived grown entry = true) :
      Fills old grown checksums entry summary summary
  | filled {summary : LabelledTx} (arrived : old.arrived grown entry = true)
      (shown : grown.summary? checksums entry = some summary) :
      Fills old grown checksums entry none (some summary)

/-- Of some entries, those whose records have arrived have new summaries. The others stand between
these as they stood. -/
def FillsAll (old grown : Tables) (checksums : Checksums) (entries : List IndexEntry)
    (before after : List LabelledTx) : Prop :=
  ∃ added, added.map some = (entries.filter (old.arrived grown)).map (grown.summary? checksums) ∧
    Interleaved before added after

end Tables

/-- The block is the same, with the summaries that have arrived since. -/
structure Block.Completes (old grown : Tables) (checksums : Checksums) (before after : Block) :
    Prop where
  blockId : after.blockId = before.blockId
  header : after.header = before.header
  lastCommit : after.lastCommit = before.lastCommit
  kept : before.transactions.Sublist after.transactions
  added : ∃ entries, Store.readAll Store.readEntry (old.index before.blockId) = .ok entries ∧
    old.FillsAll grown checksums entries before.transactions after.transactions

structure EpochBlock.Completes (old grown : Tables) (checksums : Checksums)
    (before after : EpochBlock) : Prop where
  block : before.block.Completes old grown checksums after.block
  epoch : after.epoch = before.epoch

inductive Found.Completes (old grown : Tables) (checksums : Checksums) : Found → Found → Prop
  | nothing : Completes old grown checksums (.block none) (.block none)
  | block {before after : Block} (same : before.Completes old grown checksums after) :
      Completes old grown checksums (.block (some before)) (.block (some after))
  | last {before after : EpochBlock} (same : before.Completes old grown checksums after) :
      Completes old grown checksums (.latest (.last before)) (.latest (.last after))
  | page {before after : List EpochBlock}
      (each : List.Forall₂ (EpochBlock.Completes old grown checksums) before after) :
      Completes old grown checksums (.latest (.page before)) (.latest (.page after))

theorem Interleaved.sublist {α : Type} {first second whole : List α}
    (together : Interleaved first second whole) : first.Sublist whole := by
  induction together with
  | nil => exact .slnil
  | left _ induction => exact induction.cons_cons _
  | right _ induction => exact induction.cons _

namespace Tables

variable {old grown : Tables} {checksums : Checksums}

theorem fills_all_nil : old.FillsAll grown checksums [] [] [] := ⟨[], rfl, .nil⟩

/-- The summary of one entry comes before those of the others, if it has one. -/
theorem FillsAll.cons {entry : IndexEntry} {entries : List IndexEntry}
    {before after : Option LabelledTx} {others laters : List (Option LabelledTx)}
    (head : old.Fills grown checksums entry before after)
    (tail : old.FillsAll grown checksums entries (others.filterMap id) (laters.filterMap id)) :
    old.FillsAll grown checksums (entry :: entries) ((before :: others).filterMap id)
      ((after :: laters).filterMap id) := by
  obtain ⟨added, summaries, together⟩ := tail
  cases head with
  | kept absent =>
      refine ⟨added, ?_, ?_⟩
      · rw [List.filter_cons, if_neg absent, summaries]
      · cases before with
        | none => exact together
        | some summary => exact .left together
  | @filled summary arrived shown =>
      refine ⟨summary :: added, ?_, .right together⟩
      rw [List.filter_cons, if_pos arrived, List.map_cons, List.map_cons, shown, summaries]

theorem arrived_iff {entry : IndexEntry} :
    old.arrived grown entry = true ↔ entry.kind = .decrypted ∧ old.record? entry.hash = none ∧
      ∃ row, grown.record? entry.hash = some row := by
  simp [arrived, Option.isSome_iff_exists, and_assoc]

variable {tables : Tables} {rows : List Row}

/-- The first record with a hash counts. -/
theorem record?_with_records (hash : Bytes) :
    (tables.withRecords rows).record? hash =
      (tables.record? hash).or (rows.find? fun row => row.hasBytes "hash" hash) :=
  List.find?_append

theorem summarize_of_not_arrived {entry : IndexEntry}
    (absent : ¬tables.arrived (tables.withRecords rows) entry = true) :
    (tables.withRecords rows).summarize checksums entry = tables.summarize checksums entry := by
  unfold summarize
  cases kind : entry.kind with
  | wrapper => rfl
  | decrypted =>
      have same : (tables.withRecords rows).record? entry.hash = tables.record? entry.hash := by
        cases present : tables.record? entry.hash with
        | some row => rw [record?_with_records, present, Option.some_or]
        | none =>
            cases later : (tables.withRecords rows).record? entry.hash with
            | none => rfl
            | some row => exact absurd (arrived_iff.mpr ⟨kind, present, row, later⟩) absent
      simp only [same]

theorem summarize_of_arrived (valid : ∀ row ∈ rows, ∃ record, Store.readRecord row = .ok record)
    {entry : IndexEntry} (arrived : tables.arrived (tables.withRecords rows) entry = true) :
    tables.summarize checksums entry = .ok none ∧
    ∃ summary, (tables.withRecords rows).summarize checksums entry = .ok (some summary) := by
  obtain ⟨kind, none, row, found⟩ := arrived_iff.mp arrived
  have added : row ∈ rows := by
    rw [record?_with_records, none, Option.none_or] at found
    exact List.mem_of_find?_eq_some found
  obtain ⟨record, read⟩ := valid row added
  constructor
  · simp only [summarize, kind, none, Store.readSome, Except.map, Option.map_none]
  · refine ⟨⟨record.shownLabel checksums, entry.hash⟩, ?_⟩
    simp only [summarize, kind, found, Store.readSome, read, Except.map, Option.map_some]

/-- Where an entry could be summarized, it still can. -/
theorem summarize_fills (valid : ∀ row ∈ rows, ∃ record, Store.readRecord row = .ok record)
    {entry : IndexEntry} {before : Option LabelledTx}
    (found : tables.summarize checksums entry = .ok before) :
    ∃ after, (tables.withRecords rows).summarize checksums entry = .ok after ∧
      tables.Fills (tables.withRecords rows) checksums entry before after := by
  by_cases arrived : tables.arrived (tables.withRecords rows) entry = true
  · obtain ⟨nothing, summary, shown⟩ := summarize_of_arrived valid arrived
    rw [nothing] at found
    cases found
    exact ⟨some summary, shown, .filled arrived (summarize_eq_summary? shown)⟩
  · exact ⟨before, (summarize_of_not_arrived arrived).trans found, .kept arrived⟩

end Tables

namespace World

variable (world : World) (rows : List Row)

theorem reply_with_records {query : Query} (other : query.table? ≠ some .transactions) :
    (world.withRecords rows).reply query = world.reply query := by
  cases query with
  | transaction hash => exact absurd rfl other
  | _ => rfl

theorem ask_with_records {query : Query} (other : query.table? ≠ some .transactions) :
    Store.ask (some (world.withRecords rows).connection) query =
      Store.ask (some world.connection) query :=
  Store.ask_congr rfl (world.reply_with_records rows other)

theorem ask_one_with_records {query : Query} (other : query.table? ≠ some .transactions) :
    Store.askOne (some (world.withRecords rows).connection) query =
      Store.askOne (some world.connection) query := by
  rw [Store.askOne, Store.askOne, world.ask_with_records rows other]

/-- A record that is found tells that its table answers. -/
theorem records_answer {world : World} {checksums : Checksums} {entry : IndexEntry}
    {summary : Option LabelledTx}
    (found : ((world.sources checksums).classify entry).Finds summary)
    (kind : entry.kind = .decrypted) : world.fault? (some .transactions) = none := by
  rw [Sources.classify, kind] at found
  obtain ⟨record, fetched, _⟩ := finds_bind found
  obtain ⟨row, asked, _⟩ := finds_bind fetched
  obtain ⟨listed, answered, _⟩ := Store.reply_of_finds_one asked
  rw [reply_connection, reply, Query.table?] at answered
  cases fault : world.fault? (some .transactions) with
  | none => rfl
  | some fault =>
      rw [fault] at answered
      cases answered

end World

namespace Sources

variable (world : World) {rows : List Row}
  (valid : ∀ row ∈ rows, ∃ record, Store.readRecord row = .ok record) (checksums : Checksums)

include valid

theorem classify_kept (entry : IndexEntry) :
    ((world.sources checksums).classify entry).KeptBy
      (world.tables.Fills (world.withRecords rows).tables checksums entry)
      (((world.withRecords rows).sources checksums).classify entry) := by
  intro before found
  have answers := World.records_answer found
  have summarized := (classify_yields checksums answers).eq_ok_of_finds found
  obtain ⟨after, again, fills⟩ := Tables.summarize_fills valid summarized
  refine ⟨after, ?_, fills⟩
  rw [← again]
  exact classify_yields checksums answers

theorem classify_all_kept (entries : List IndexEntry) :
    ((world.sources checksums).classifyAll entries).KeptBy
      (fun before after => world.tables.FillsAll (world.withRecords rows).tables checksums entries
        (before.filterMap id) (after.filterMap id))
      (((world.withRecords rows).sources checksums).classifyAll entries) := by
  induction entries with
  | nil => exact kept_by_pure Tables.fills_all_nil
  | cons entry rest induction =>
      apply (classify_kept world valid checksums entry).bind
      intro first later _ head
      apply induction.bind
      intro others behind _ tail
      exact kept_by_pure (Tables.FillsAll.cons head tail)

theorem assemble_kept (stored : StoredBlock) :
    ((world.sources checksums).assemble stored).KeptBy
      (Block.Completes world.tables (world.withRecords rows).tables checksums)
      (((world.withRecords rows).sources checksums).assemble stored) := by
  have listed : Store.txHashEntries ((world.withRecords rows).sources checksums).connection
      stored.blockId = Store.txHashEntries (world.sources checksums).connection stored.blockId := by
    simp only [Store.txHashEntries, World.sources]
    rw [World.ask_with_records world rows (by simp [Query.table?])]
  rw [assemble, assemble, listed]
  apply ((world.sources checksums).entries_uniform stored.blockId).kept.bind
  rintro entries _ found rfl
  apply (classify_all_kept world valid checksums entries).bind
  intro before after _ fills
  apply kept_by_pure
  obtain ⟨added, summaries, together⟩ := fills
  have index := World.index_of_finds found
  exact ⟨rfl, rfl, rfl, together.sublist, entries, index, added, summaries, together⟩

theorem annotate_kept (stored : StoredBlock) :
    ((world.sources checksums).annotate stored).KeptBy
      (EpochBlock.Completes world.tables (world.withRecords rows).tables checksums)
      (((world.withRecords rows).sources checksums).annotate stored) := by
  apply (assemble_kept world valid checksums stored).bind
  intro before after _ same
  rw [same.header]
  apply (world.node.epoch_uniform before.header.height).kept.bind
  rintro epoch _ _ rfl
  exact kept_by_pure ⟨same, rfl⟩

theorem annotate_all_kept (stored : List StoredBlock) :
    ((world.sources checksums).annotateAll stored).KeptBy
      (List.Forall₂ (EpochBlock.Completes world.tables (world.withRecords rows).tables checksums))
      (((world.withRecords rows).sources checksums).annotateAll stored) := by
  rw [← annotate_all_eq, ← annotate_all_eq]
  exact one_by_one_kept (annotate_kept world valid checksums) stored

/-- A block that was found is found again. -/
theorem assemble_some_kept (stored : Option StoredBlock) :
    ((world.sources checksums).assembleSome stored).KeptBy
      (fun before after => Found.Completes world.tables (world.withRecords rows).tables checksums
        (.block before) (.block after))
      (((world.withRecords rows).sources checksums).assembleSome stored) := by
  cases stored with
  | none => exact kept_by_pure .nothing
  | some stored =>
      apply KeptBy.map
      exact (assemble_kept world valid checksums stored).mono fun _ _ => .block

/-- Blocks are found by their own table, which is what it was. -/
theorem found_kept (query : Query) (other : query.table? ≠ some .transactions) :
    ((do
        let row ← Store.askOne (world.sources checksums).connection query
        Explore.ofExcept (Store.readSome Store.readBlock row)) >>=
      (world.sources checksums).assembleSome).KeptBy
      (fun before after => Found.Completes world.tables (world.withRecords rows).tables checksums
        (.block before) (.block after))
      ((do
        let row ← Store.askOne ((world.withRecords rows).sources checksums).connection query
        Explore.ofExcept (Store.readSome Store.readBlock row)) >>=
      ((world.withRecords rows).sources checksums).assembleSome) := by
  have same : Store.askOne ((world.withRecords rows).sources checksums).connection query =
      Store.askOne (world.sources checksums).connection query :=
    World.ask_one_with_records world rows other
  have uniform := (world.sources checksums).steps_uniform
  rw [same]
  apply (uniform.fetched_one uniform_composable query _).kept.bind
  rintro stored _ _ rfl
  exact assemble_some_kept world valid checksums stored

theorem last_kept :
    ((world.sources checksums).last).KeptBy
      (fun before after => Found.Completes world.tables (world.withRecords rows).tables checksums
        (.latest before) (.latest after))
      (((world.withRecords rows).sources checksums).last) := by
  have same : Store.latestBlock ((world.withRecords rows).sources checksums).connection =
      Store.latestBlock (world.sources checksums).connection := by
    simp only [Store.latestBlock, World.sources]
    rw [World.ask_one_with_records world rows (by simp [Query.table?])]
  have uniform := (world.sources checksums).steps_uniform
  rw [last, last, same]
  apply (uniform.latest_block uniform_composable).kept.bind
  rintro stored _ _ rfl
  apply (annotate_kept world valid checksums stored).bind
  intro before after _ shown
  exact kept_by_pure (.last shown)

theorem page_kept (count : Int) (offset : Option Int) :
    ((world.sources checksums).page count offset).KeptBy
      (fun before after => Found.Completes world.tables (world.withRecords rows).tables checksums
        (.latest before) (.latest after))
      (((world.withRecords rows).sources checksums).page count offset) := by
  have same : Store.latestBlocks ((world.withRecords rows).sources checksums).connection count
      offset = Store.latestBlocks (world.sources checksums).connection count offset := by
    simp only [Store.latestBlocks, World.sources]
    rw [World.ask_with_records world rows (by simp [Query.table?])]
  have uniform := (world.sources checksums).steps_uniform
  rw [page, page, same]
  apply KeptBy.behind_guard
  apply KeptBy.behind_guard
  apply (uniform.fetched uniform_composable (.blockPage count (offset.getD 0)) _).kept.bind
  rintro stored _ _ rfl
  apply (annotate_all_kept world valid checksums stored).bind
  intro before after _ shown
  exact kept_by_pure (.page shown)

/-- Whatever a lookup found, it finds again, with what has arrived since. -/
theorem look_kept (lookup : Lookup) :
    ((world.sources checksums).look lookup).KeptBy
      (Found.Completes world.tables (world.withRecords rows).tables checksums)
      (((world.withRecords rows).sources checksums).look lookup) := by
  have found (query : Query) (blocks : query.table? = some .blocks) :=
    found_kept world valid checksums query (by simp [blocks])
  cases lookup with
  | byHash hash => exact (found (.blockByHash hash) rfl).map
  | byId id => exact (found (.blockByHash id) rfl).map
  | byHeight height =>
      exact (found (.blockByHeight height) rfl).behind_guard.behind_guard.map
  | byHashText text =>
      rw [look, look, byHashText, byHashText]
      cases BlockHash.parse text with
      | error fault => exact (kept_by_fail _ _).map
      | ok hash => exact (found (.blockByHash hash) rfl).map
  | latest count offset =>
      cases count with
      | none => exact (last_kept world valid checksums).map
      | some count => exact (page_kept world valid checksums count offset).map

end Sources

/-- Records that arrive late only add to what is found. Where valid rows are put behind the records,
every stored block that could be put together still can, and every lookup that found something finds
the same blocks again; a block keeps its id, its header, its commit and all of its summaries in
their order, and gets those of the decrypted entries that had no record and have one now. It makes
no difference what faults the database has, nor which turns are taken before and after. -/
theorem late_records_only_add (world : World) (checksums : Checksums) (rows : List Row)
    (valid : ∀ row ∈ rows, ∃ record, Store.readRecord row = .ok record) {fanout wider : Nat}
    (schedule : Schedule fanout) (later : Schedule wider) :
    let grown := world.withRecords rows
    (∀ stored before,
      ((world.sources checksums).assembleInTurns schedule stored).Finds before →
      ∃ after, ((grown.sources checksums).assembleInTurns later stored).Yields (.ok after) ∧
        before.Completes world.tables grown.tables checksums after) ∧
    ∀ lookup found, ((world.sources checksums).lookInTurns schedule lookup).Finds found →
      ∃ again, ((grown.sources checksums).lookInTurns later lookup).Yields (.ok again) ∧
        found.Completes world.tables grown.tables checksums again := by
  intro grown
  constructor
  · intro stored
    have uniform := ((world.sources checksums).steps_uniform.parts
      uniform_composable).assemble_in_turns uniform_composable schedule stored
    exact (Sources.assemble_kept world valid checksums stored).alike uniform
      ((world.sources checksums).assemble_in_turns_alike schedule stored)
      ((grown.sources checksums).assemble_in_turns_alike later stored)
  · intro lookup
    exact (Sources.look_kept world valid checksums lookup).alike
      ((world.sources checksums).look_in_turns_uniform schedule lookup)
      ((world.sources checksums).look_in_turns_alike schedule lookup)
      ((grown.sources checksums).look_in_turns_alike later lookup)

namespace SmallStore

/-- A record for the entry that had none, a second record for one that has its own, and a record of
a wrapped transaction. -/
def lateRows : List Row :=
  [recordRow [0xC] (.bytes [0xAB]), recordRow [0xB] (.bytes [0xEF]), recordRow [0xA] .null]

theorem late_rows_valid : ∀ row ∈ lateRows, ∃ record, Store.readRecord row = .ok record := by
  intro row member
  simp only [lateRows, List.mem_cons, List.not_mem_nil, or_false] at member
  rcases member with rfl | rfl | rfl <;> exact ⟨_, rfl⟩

theorem first_block_found :
    ((world.sources checksums).assembleInTurns (Schedule.inOrder Nat.one_pos)
      ⟨[1], header 5, none⟩).Finds firstBlock := by
  rw [Sources.assemble_in_order]
  exact (Sources.assemble_yields reliable checksums _).finds

end SmallStore

/-- Of three late rows, one adds a summary. -/
theorem late_records_only_add_small_store :
    (∀ row ∈ SmallStore.lateRows, ∃ record, Store.readRecord row = .ok record) ∧
    ∃ after : Block,
      (((SmallStore.world.withRecords SmallStore.lateRows).sources
        SmallStore.checksums).assembleInTurns (Schedule.inOrder Nat.one_pos)
          ⟨[1], SmallStore.header 5, none⟩).Yields (.ok after) ∧
      Interleaved SmallStore.firstBlock.transactions [⟨Text.ofString "Bond", [0xC]⟩]
        after.transactions := by
  obtain ⟨after, yields, completes⟩ := (late_records_only_add SmallStore.world
    SmallStore.checksums SmallStore.lateRows SmallStore.late_rows_valid
    (Schedule.inOrder Nat.one_pos) (Schedule.inOrder Nat.one_pos)).1 _ _
    SmallStore.first_block_found
  obtain ⟨entries, index, added, summaries, together⟩ := completes.added
  have known : entries = SmallStore.entries := Except.ok.inj (index.symm.trans rfl)
  have alone : added = [⟨Text.ofString "Bond", [0xC]⟩] := by
    rw [known] at summaries
    exact List.map_injective_iff.mpr (fun _ _ => Option.some.inj) summaries
  rw [alone] at together
  exact ⟨SmallStore.late_rows_valid, after, yields, together⟩

end BlockExplorer
