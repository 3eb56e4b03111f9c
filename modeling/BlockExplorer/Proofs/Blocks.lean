import BlockExplorer.Proofs.Answers
import BlockExplorer.Proofs.Columns

/-!
The block that a row of the table of blocks stands for. It is there exactly when all rows that
belong to it can be read, and shows the summaries that its index calls for, in index order; in any
other case a malformed row is reported.
-/

namespace BlockExplorer.Tables

open Collecting

/-- The summary that an index entry calls for. A wrapped transaction is shown as such. A decrypted
one that is stored has the name of its kind, or the general label where it has no kind; one that is
not stored has no summary. -/
def summary? (tables : Tables) (checksums : Checksums) (entry : IndexEntry) : Option LabelledTx :=
  match entry.kind with
  | .wrapper => some ⟨Text.ofString "Wrapper", entry.hash⟩
  | .decrypted => do
      let row ← tables.record? entry.hash
      let record ← (Store.readRecord row).toOption
      let label := (record.programKind? checksums).elim "Decrypted" TxKind.name
      some ⟨Text.ofString label, entry.hash⟩

/-- What is needed for the block in a row can be read: the row holds a block, the rows of its index
hold entries, and so do the records of the decrypted ones as far as there are any. -/
structure Readable (tables : Tables) (row : Row) (stored : StoredBlock)
    (entries : List IndexEntry) : Prop where
  block : Store.readBlock row = .ok stored
  index : List.Forall₂ (fun row entry => Store.readEntry row = .ok entry)
    (tables.index stored.blockId) entries
  records : ∀ entry ∈ entries, entry.kind = .decrypted →
    ∀ row ∈ tables.record? entry.hash, ∃ record, Store.readRecord row = .ok record

def blockOf (tables : Tables) (checksums : Checksums) (row : Row) : Except Failure Block :=
  (Store.readBlock row).bind (tables.display checksums)

variable {tables : Tables} {checksums : Checksums}

theorem shown_label_eq (record : StoredTx) :
    record.shownLabel checksums =
      Text.ofString ((record.programKind? checksums).elim "Decrypted" TxKind.name) := by
  rw [StoredTx.shownLabel]
  cases record.programKind? checksums <;> rfl

theorem summarize_error_is_malformed {entry : IndexEntry} {failure : Failure}
    (failed : tables.summarize checksums entry = .error failure) : failure.IsMalformedRow := by
  unfold summarize at failed
  cases kind : entry.kind with
  | wrapper =>
      rw [kind] at failed
      cases failed
  | decrypted =>
      rw [kind] at failed
      obtain ⟨row, _, unread⟩ := Store.read_some_error (map_eq_error_iff.mp failed)
      exact Store.read_record_error_is_malformed unread

theorem summarize_succeeds_iff {entry : IndexEntry} :
    (∃ summary, tables.summarize checksums entry = .ok summary) ↔
      (entry.kind = .decrypted →
        ∀ row ∈ tables.record? entry.hash, ∃ record, Store.readRecord row = .ok record) := by
  unfold summarize
  cases kind : entry.kind with
  | wrapper => simp
  | decrypted =>
      rw [← Store.read_some_succeeds_iff]
      simp [map_eq_ok_iff]

theorem summarize_eq_summary? {entry : IndexEntry} {summary : Option LabelledTx}
    (found : tables.summarize checksums entry = .ok summary) :
    tables.summary? checksums entry = summary := by
  unfold summarize at found
  unfold summary?
  cases kind : entry.kind with
  | wrapper =>
      rw [kind] at found
      exact Except.ok.inj found
  | decrypted =>
      rw [kind] at found
      obtain ⟨record?, read, rfl⟩ := map_eq_ok_iff.mp found
      cases present : tables.record? entry.hash with
      | none =>
          rw [present] at read
          cases read
          rfl
      | some row =>
          rw [present] at read
          obtain ⟨record, recorded, rfl⟩ := map_eq_ok_iff.mp read
          simp [recorded, Except.toOption, shown_label_eq]

theorem map_m_summarize_eq {entries : List IndexEntry} {summaries : List (Option LabelledTx)}
    (paired : List.Forall₂ (fun entry summary => tables.summarize checksums entry = .ok summary)
      entries summaries) :
    summaries.filterMap id = entries.filterMap (tables.summary? checksums) := by
  induction paired with
  | nil => rfl
  | cons head tail induction =>
      have same := summarize_eq_summary? head
      rw [List.filterMap_cons, List.filterMap_cons, same, induction]
      rfl

theorem display_eq_ok_iff {stored : StoredBlock} {block : Block} :
    tables.display checksums stored = .ok block ↔
      ∃ entries summaries, (tables.index stored.blockId).mapM Store.readEntry = .ok entries ∧
        entries.mapM (tables.summarize checksums) = .ok summaries ∧
        block = ⟨stored.blockId, stored.header, stored.lastCommit, summaries.filterMap id⟩ := by
  rw [display, bind_eq_ok_iff]
  constructor
  · rintro ⟨entries, index, collected⟩
    obtain ⟨summaries, summarized, same⟩ := map_eq_ok_iff.mp collected
    exact ⟨entries, summaries, index, summarized, same.symm⟩
  · rintro ⟨entries, summaries, index, summarized, rfl⟩
    exact ⟨entries, index, map_eq_ok_iff.mpr ⟨summaries, summarized, rfl⟩⟩

theorem display_error_is_malformed (complete : tables.Complete) {stored : StoredBlock}
    {failure : Failure} (failed : tables.display checksums stored = .error failure) :
    failure.IsMalformedRow := by
  rcases bind_eq_error_iff.mp failed with unread | ⟨entries, _, collected⟩
  · obtain ⟨row, member, fault⟩ := exists_of_map_m_eq_error unread
    obtain ⟨hash, kind⟩ := complete.txHashes row (List.mem_filter.mp member).1
    exact Store.read_entry_error_is_malformed hash kind fault
  · obtain ⟨entry, _, fault⟩ := exists_of_map_m_eq_error (map_eq_error_iff.mp collected)
    exact summarize_error_is_malformed fault

/-- A row comes to a block exactly where everything can be read, and to no other block. -/
theorem block_of_eq_ok_iff {row : Row} {block : Block} :
    tables.blockOf checksums row = .ok block ↔
      ∃ stored entries, tables.Readable row stored entries ∧ block =
        ⟨stored.blockId, stored.header, stored.lastCommit,
          entries.filterMap (tables.summary? checksums)⟩ := by
  rw [blockOf, bind_eq_ok_iff]
  constructor
  · rintro ⟨stored, read, displayed⟩
    obtain ⟨entries, summaries, index, summarized, rfl⟩ := display_eq_ok_iff.mp displayed
    have records : ∀ entry ∈ entries, entry.kind = .decrypted →
        ∀ row ∈ tables.record? entry.hash, ∃ record, Store.readRecord row = .ok record := by
      intro entry member
      exact summarize_succeeds_iff.mp (map_m_succeeds_iff.mp ⟨summaries, summarized⟩ entry member)
    refine ⟨stored, entries, ⟨read, map_m_eq_ok_iff.mp index, records⟩, ?_⟩
    rw [map_m_summarize_eq (map_m_eq_ok_iff.mp summarized)]
  · rintro ⟨stored, entries, readable, rfl⟩
    have each : ∀ entry ∈ entries, ∃ summary, tables.summarize checksums entry = .ok summary := by
      intro entry member
      exact summarize_succeeds_iff.mpr (readable.records entry member)
    obtain ⟨summaries, summarized⟩ := map_m_succeeds_iff.mpr each
    refine ⟨stored, readable.block, display_eq_ok_iff.mpr ?_⟩
    refine ⟨entries, summaries, map_m_eq_ok_iff.mpr readable.index, summarized, ?_⟩
    rw [map_m_summarize_eq (map_m_eq_ok_iff.mp summarized)]

theorem block_of_error_is_malformed (complete : tables.Complete) {row : Row}
    (listed : row ∈ tables.blocks) {failure : Failure}
    (failed : tables.blockOf checksums row = .error failure) : failure.IsMalformedRow := by
  rcases bind_eq_error_iff.mp failed with unread | ⟨stored, _, hidden⟩
  · exact Store.read_block_error_is_malformed (complete.blocks row listed) unread
  · exact display_error_is_malformed complete hidden

theorem height_of_block_of {row : Row} {block : Block} {height : Int}
    (found : tables.blockOf checksums row = .ok block)
    (cell : row.cell? (.header .height) = some (.int height)) :
    (block.header.height : Int) = height := by
  obtain ⟨stored, entries, readable, rfl⟩ := block_of_eq_ok_iff.mp found
  exact Store.height_of_read_block readable.block cell

theorem display_some_eq_map (row : Row) : tables.displaySome checksums (some row) =
    (tables.blockOf checksums row).map some := by
  rw [displaySome, blockOf, Store.readSome]
  cases Store.readBlock row with
  | error failure => rfl
  | ok stored => rfl

end BlockExplorer.Tables
