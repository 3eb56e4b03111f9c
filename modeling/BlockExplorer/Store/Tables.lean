import BlockExplorer.Store.Query

/-!
What the queries mean: the answers that three tables give. Blocks are ordered by height, the highest
first; of equally high ones the one that stands first in the table comes first.
-/

namespace BlockExplorer

/-- The rows of each table as they stand there. Those of the index stand in index order, in which
the query for them wants them. -/
structure Tables where
  blocks : List Row
  txHashes : List Row
  transactions : List Row

namespace Row

def hasBytes (row : Row) (column : String) (wanted : Bytes) : Bool :=
  match Value.member? column row with
  | some (.bytes found) => found = wanted
  | _ => false

def height? (row : Row) : Option Int :=
  (row.cell? (.header .height)).bind Value.integer?

def height (row : Row) : Int := row.height?.getD 0

end Row

namespace Tables

/-- Puts a row before all rows that are no higher. -/
def insertByHeight (row : Row) : List Row → List Row
  | [] => [row]
  | first :: rest =>
      if first.height ≤ row.height then row :: first :: rest
      else first :: insertByHeight row rest

def byHeight (rows : List Row) : List Row := rows.foldr insertByHeight []

def answer (tables : Tables) : Query → List Row
  | .blockByHash hash =>
      tables.blocks.filter fun row => row.hasBytes BlockColumn.blockId.name hash
  | .blockByHeight height => tables.blocks.filter fun row => row.height? = some height
  | .latestBlock => (byHeight tables.blocks).take 1
  | .blockPage count offset => ((byHeight tables.blocks).drop offset.toNat).take count.toNat
  | .txHashes blockId => tables.txHashes.filter fun row => row.hasBytes "block_id" blockId
  | .transaction hash => tables.transactions.filter fun row => row.hasBytes "hash" hash
  | _ => []

theorem length_insert_by_height (row : Row) (rows : List Row) :
    (insertByHeight row rows).length = rows.length + 1 := by
  induction rows with
  | nil => rfl
  | cons first rest induction =>
      rw [insertByHeight]
      split <;> simp [induction]

/-- Ordering neither loses nor adds rows. -/
theorem length_by_height (rows : List Row) : (byHeight rows).length = rows.length := by
  induction rows with
  | nil => rfl
  | cons first rest induction =>
      rw [byHeight, List.foldr_cons, length_insert_by_height]
      exact congrArg (· + 1) induction

theorem mem_insert_by_height {row other : Row} {rows : List Row} :
    other ∈ insertByHeight row rows ↔ other = row ∨ other ∈ rows := by
  induction rows with
  | nil => simp [insertByHeight]
  | cons first rest induction =>
      rw [insertByHeight]
      split
      · simp
      · rw [List.mem_cons, induction, List.mem_cons]
        constructor
        · rintro (same | same | member)
          · exact .inr (.inl same)
          · exact .inl same
          · exact .inr (.inr member)
        · rintro (same | same | member)
          · exact .inr (.inl same)
          · exact .inl same
          · exact .inr (.inr member)

theorem mem_by_height {row : Row} {rows : List Row} : row ∈ byHeight rows ↔ row ∈ rows := by
  induction rows with
  | nil => simp [byHeight]
  | cons first rest induction =>
      rw [byHeight, List.foldr_cons, mem_insert_by_height, List.mem_cons]
      exact or_congr Iff.rfl induction

theorem insert_by_height_sorted {row : Row} {rows : List Row}
    (sorted : rows.Pairwise fun first second => second.height ≤ first.height) :
    (insertByHeight row rows).Pairwise fun first second => second.height ≤ first.height := by
  induction rows with
  | nil => simp [insertByHeight]
  | cons first rest induction =>
      obtain ⟨above, sorted⟩ := List.pairwise_cons.mp sorted
      rw [insertByHeight]
      split
      · next lower =>
          refine List.pairwise_cons.mpr
            ⟨fun other member => ?_, List.pairwise_cons.mpr ⟨above, sorted⟩⟩
          rcases List.mem_cons.mp member with rfl | member
          · exact lower
          · exact Int.le_trans (above other member) lower
      · next higher =>
          refine List.pairwise_cons.mpr ⟨fun other member => ?_, induction sorted⟩
          rcases mem_insert_by_height.mp member with rfl | member
          · omega
          · exact above other member

/-- Ordered rows do not rise. -/
theorem by_height_sorted (rows : List Row) :
    (byHeight rows).Pairwise fun first second => second.height ≤ first.height := by
  induction rows with
  | nil => exact List.Pairwise.nil
  | cons first rest induction => exact insert_by_height_sorted induction

end Tables

end BlockExplorer
