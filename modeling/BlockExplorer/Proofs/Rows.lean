import BlockExplorer.Proofs.Collecting
import BlockExplorer.Store.Tables

/-!
Rows with all of their columns. Such a row either holds what its table is for, or is refused as
malformed; there is no third case, whatever is in its cells.
-/

namespace BlockExplorer

def Failure.IsMalformedRow (failure : Failure) : Prop :=
  ∃ table fields, failure = .store (.malformedRow table fields)

/-- The rows have the columns without which nothing is checked: all those of the table of blocks,
and both of the index. A record may lack any column, since its check reports that. -/
structure Tables.Complete (tables : Tables) : Prop where
  blocks : ∀ row ∈ tables.blocks, ∀ column, (row.cell? column).isSome
  txHashes : ∀ row ∈ tables.txHashes,
    (Value.member? "hash" row).isSome ∧ (Value.member? "tx_type" row).isSome

/-- No column was missed on the way to a result. -/
def RowFault.Whole {α : Type} (result : Except RowFault α) : Prop :=
  ∀ name, result ≠ .error (.missingColumn name)

namespace RowFault

variable {α β : Type}

theorem whole_ok (content : α) : Whole (.ok content : Except RowFault α) := by
  intro name same
  cases same

theorem whole_to_row (found : Checked α) : Whole found.toRow := by
  intro name same
  cases found <;> cases same

theorem Whole.bind {first : Except RowFault α} {next : α → Except RowFault β}
    (head : Whole first) (tail : ∀ content, Whole (next content)) : Whole (first >>= next) := by
  intro name same
  cases first with
  | ok content => exact tail content name same
  | error fault =>
      have missed : fault = .missingColumn name := Except.error.inj same
      exact head name (by rw [missed])

theorem whole_need {row : Row} {column : BlockColumn} (present : (row.cell? column).isSome) :
    Whole (row.need column) := by
  obtain ⟨value, found⟩ := Option.isSome_iff_exists.mp present
  rw [Row.need, found]
  exact whole_ok value

theorem whole_block_id (row : Row) (hash total partsHash : BlockColumn) :
    Whole (BlockId.ofRow row hash total partsHash) :=
  (whole_to_row _).bind fun _ => whole_to_row _

theorem whole_header {row : Row} (present : ∀ column, (row.cell? column).isSome) :
    Whole (BlockHeader.ofRow row) :=
  (whole_need (present _)).bind fun _ => (whole_need (present _)).bind fun _ =>
    (whole_need (present _)).bind fun _ => (whole_block_id row _ _ _).bind fun _ => whole_to_row _

theorem whole_last_commit (row : Row) : Whole (LastCommit.ofRow row) := by
  unfold LastCommit.ofRow
  split
  · exact whole_ok none
  · exact (whole_block_id row _ _ _).bind fun _ => (whole_to_row _).bind fun _ => whole_ok _

theorem whole_block {row : Row} (present : ∀ column, (row.cell? column).isSome) :
    Whole (StoredBlock.ofRow row) :=
  (whole_header present).bind fun _ => (whole_last_commit row).bind fun _ =>
    (whole_need (present _)).bind fun _ => whole_to_row _

end RowFault

namespace Store

theorem read_error_eq {α : Type} {table : Table} {found : Except RowFault α} {failure : Failure}
    (whole : RowFault.Whole found) (failed : read table found = .error failure) :
    ∃ fields, failure = .store (.malformedRow table fields) := by
  cases found with
  | ok content => cases failed
  | error fault =>
      cases fault with
      | missingColumn name => exact absurd rfl (whole name)
      | invalid errors => exact ⟨errors.length, (Except.error.inj failed).symm⟩

theorem read_error_is_malformed {α : Type} {table : Table} {found : Except RowFault α}
    {failure : Failure} (whole : RowFault.Whole found)
    (failed : read table found = .error failure) : failure.IsMalformedRow :=
  ⟨table, read_error_eq whole failed⟩

theorem read_block_error_is_malformed {row : Row} {failure : Failure}
    (present : ∀ column, (row.cell? column).isSome)
    (failed : readBlock row = .error failure) : failure.IsMalformedRow :=
  read_error_is_malformed (RowFault.whole_block present) failed

theorem read_entry_error_is_malformed {row : Row} {failure : Failure}
    (hash : (Value.member? "hash" row).isSome) (kind : (Value.member? "tx_type" row).isSome)
    (failed : readEntry row = .error failure) : failure.IsMalformedRow := by
  obtain ⟨hashCell, hashFound⟩ := Option.isSome_iff_exists.mp hash
  obtain ⟨kindCell, kindFound⟩ := Option.isSome_iff_exists.mp kind
  simp only [readEntry, hashFound, kindFound] at failed
  exact read_error_is_malformed (RowFault.whole_to_row _) failed

theorem read_record_error_is_malformed {row : Row} {failure : Failure}
    (failed : readRecord row = .error failure) : failure.IsMalformedRow :=
  read_error_is_malformed (RowFault.whole_to_row _) failed

theorem read_some_error {α : Type} {reader : Row → Except Failure α} {row? : Option Row}
    {failure : Failure} (failed : readSome reader row? = .error failure) :
    ∃ row ∈ row?, reader row = .error failure := by
  cases row? with
  | none => cases failed
  | some row => exact ⟨row, rfl, Collecting.map_eq_error_iff.mp failed⟩

theorem read_some_succeeds_iff {α : Type} {reader : Row → Except Failure α} {row? : Option Row} :
    (∃ found, readSome reader row? = .ok found) ↔
      ∀ row ∈ row?, ∃ content, reader row = .ok content := by
  cases row? with
  | none => simp [readSome]
  | some row => cases read : reader row <;> simp [readSome, read, Except.map]

end Store

end BlockExplorer
