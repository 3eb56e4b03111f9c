import BlockExplorer.Proofs.Answers

/-!
Blocks from the highest to the lowest. The order is stable: rows of one height stand as they do in
the table, so it is determined by the table alone, and a page is a window of it.
-/

namespace BlockExplorer.Tables

/-- The same rows from the highest to the lowest; those of one height keep their order. -/
structure Descending (rows sorted : List Row) : Prop where
  perm : sorted.Perm rows
  falling : sorted.Pairwise fun first second => second.height ≤ first.height
  stable : ∀ height, sorted.filter (fun row => row.height = height) =
    rows.filter fun row => row.height = height

theorem insert_by_height_perm (row : Row) (rows : List Row) :
    (insertByHeight row rows).Perm (row :: rows) := by
  induction rows with
  | nil => exact List.Perm.refl _
  | cons first rest induction =>
      rw [insertByHeight]
      split
      · exact List.Perm.refl _
      · have behind := List.Perm.cons first induction
        exact behind.trans (List.Perm.swap row first rest)

/-- A row only passes higher ones, so it keeps its place among those of its own height. -/
theorem filter_insert_by_height (row : Row) (rows : List Row) (height : Int) :
    (insertByHeight row rows).filter (fun other => other.height = height) =
      (row :: rows).filter fun other => other.height = height := by
  induction rows with
  | nil => rfl
  | cons first rest induction =>
      rw [insertByHeight]
      split
      · rfl
      · next higher =>
          rw [List.filter_cons, induction]
          by_cases own : row.height = height
          · have passed : ¬first.height = height := by omega
            simp [own, passed]
          · simp [List.filter_cons, own]

theorem by_height_descending (rows : List Row) : Descending rows (byHeight rows) where
  perm := by
    induction rows with
    | nil => exact List.Perm.refl _
    | cons row rest induction =>
        have inserted := insert_by_height_perm row (byHeight rest)
        exact inserted.trans (List.Perm.cons row induction)
  falling := by_height_sorted rows
  stable := by
    intro height
    induction rows with
    | nil => rfl
    | cons row rest induction =>
        have inserted := filter_insert_by_height row (byHeight rest) height
        rw [List.filter_cons, induction] at inserted
        rw [List.filter_cons]
        exact inserted

variable {tables : Tables} {count : Int} {offset : Option Int}

theorem length_window :
    (tables.window count offset).length =
      min count.toNat (tables.blocks.length - (offset.getD 0).toNat) := by
  rw [window, List.length_take, List.length_drop, length_by_height]

theorem window_sublist : (tables.window count offset).Sublist (byHeight tables.blocks) :=
  (List.take_sublist _ _).trans (List.drop_sublist _ _)

theorem mem_blocks_of_mem_window {row : Row} (member : row ∈ tables.window count offset) :
    row ∈ tables.blocks :=
  mem_by_height.mp (window_sublist.mem member)

theorem window_falling : (tables.window count offset).Pairwise
    fun first second => second.height ≤ first.height :=
  (by_height_sorted tables.blocks).sublist window_sublist

end BlockExplorer.Tables
