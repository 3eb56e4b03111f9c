import BlockExplorer.Proofs.HashGrammar
import BlockExplorer.Proofs.Pages

/-!
The ways to a block meet. Where ids and heights are keys of the table of blocks, a row is found by
its id, by the text of its id, by its height and by its place among the latest, and all of them come
to the same block or to the same fault of the store.
-/

namespace BlockExplorer

open Collecting Explore

/-- The ids and the heights of blocks are keys, and heights fit the column. -/
structure Tables.Keyed (tables : Tables) : Prop where
  ids : ∀ row ∈ tables.blocks, ∃ id, id ≠ [] ∧ row.cell? .blockId = some (.bytes id)
  heights : ∀ row ∈ tables.blocks, ∃ height : Int, 0 ≤ height ∧ height ≤ 9223372036854775807 ∧
    row.cell? (.header .height) = some (.int height)
  distinctIds : tables.blocks.Pairwise fun first second =>
    first.cell? .blockId ≠ second.cell? .blockId
  distinctHeights : tables.blocks.Pairwise fun first second =>
    first.cell? (.header .height) ≠ second.cell? (.header .height)

/-- All ways to the block in a row come to `shown` if its transactions are classified in the same
turns. A page leads to the block at the place of the row, in whatever orders its blocks and the
transactions of the others are done, as long as the node has an epoch for its height and every other
row of the page can be shown. -/
structure World.EntriesAgree (world : World) (checksums : Checksums) {fanout : Nat}
    (schedule : Schedule fanout) (row : Row) (id : Bytes) (height : Int)
    (shown : Except Failure (Option Block)) : Prop where
  byHashText : ((world.sources checksums).lookInTurns schedule (.byHashText (Hex.upper id))).Yields
    (shown.map Found.block)
  byHash : ((world.sources checksums).lookInTurns schedule (.byHash id)).Yields
    (shown.map Found.block)
  byId : ((world.sources checksums).lookInTurns schedule (.byId id)).Yields
    (shown.map Found.block)
  byHeight : ((world.sources checksums).lookInTurns schedule (.byHeight height)).Yields
    (shown.map Found.block)
  page : ∀ (outer : TaskOrders) (inner : StoredBlock → TaskOrders) (count : Int)
    (offset : Option Int) (rank epoch : Nat),
    (∀ stored, Store.readBlock row = .ok stored → inner stored = schedule.orders) →
    0 ≤ count → (∀ start ∈ offset, 0 ≤ start) →
    (Tables.byHeight world.tables.blocks)[rank]? = some row →
    offset.getD 0 ≤ rank → rank < offset.getD 0 + count →
    (world.node.epoch height).Yields (.ok epoch) →
    (∀ other ∈ world.tables.window count offset, other ≠ row →
      ∃ annotated, world.Shows checksums other annotated) →
    ∃ page : Except Failure (List EpochBlock),
      ((world.sources checksums).pageBy outer inner count offset).Yields (page.map Latest.page) ∧
      page.map (fun blocks => blocks[rank - (offset.getD 0).toNat]?.map EpochBlock.block) = shown

theorem find?_of_key {key : Row → Option Value} {rows : List Row} {row : Row}
    {matches? : Row → Bool}
    (distinct : rows.Pairwise fun first second => key first ≠ key second)
    (member : row ∈ rows) (matched : matches? row = true)
    (same : ∀ other ∈ rows, matches? other = true → key other = key row) :
    rows.find? matches? = some row := by
  induction rows with
  | nil => cases member
  | cons first rest induction =>
      obtain ⟨apart, distinct⟩ := List.pairwise_cons.mp distinct
      rcases List.mem_cons.mp member with rfl | later
      · exact List.find?_cons_of_pos matched
      · have unmatched : ¬matches? first = true := by
          intro found
          exact apart row later (same first List.mem_cons_self found)
        rw [List.find?_cons_of_neg unmatched]
        exact induction distinct later fun other present =>
          same other (List.mem_cons_of_mem first present)

theorem Row.has_bytes_iff {row : Row} {id : Bytes} :
    row.hasBytes BlockColumn.blockId.name id = true ↔ row.cell? .blockId = some (.bytes id) := by
  rw [Row.hasBytes, Row.cell?]
  cases Value.member? BlockColumn.blockId.name row with
  | none => simp
  | some value => cases value <;> simp

namespace Tables.Keyed

variable {tables : Tables} (keyed : tables.Keyed) {row : Row} (member : row ∈ tables.blocks)

include keyed member

theorem with_id {id : Bytes} (cell : row.cell? .blockId = some (.bytes id)) :
    tables.blockWithId? id = some row := by
  refine find?_of_key keyed.distinctIds member (Row.has_bytes_iff.mpr cell) ?_
  intro other _ matched
  rw [cell, Row.has_bytes_iff.mp matched]

theorem at_height {height : Int} (cell : row.cell? (.header .height) = some (.int height)) :
    tables.blockAtHeight? height = some row := by
  refine find?_of_key keyed.distinctHeights member ?_ ?_
  · exact decide_eq_true (Row.height?_of_int_cell cell)
  · intro other present matched
    obtain ⟨found, _, _, own⟩ := keyed.heights other present
    have same : some found = some height := by
      rw [← Row.height?_of_int_cell own]
      exact of_decide_eq_true matched
    rw [cell, own, Option.some.inj same]

end Tables.Keyed

theorem Tables.window_at_rank {tables : Tables} {row : Row} {count : Int} {offset : Option Int}
    {rank : Nat} (ranked : (byHeight tables.blocks)[rank]? = some row)
    (above : offset.getD 0 ≤ rank) (below : rank < offset.getD 0 + count) :
    (tables.window count offset)[rank - (offset.getD 0).toNat]? = some row := by
  have inside : rank - (offset.getD 0).toNat < count.toNat := by omega
  have behind : (offset.getD 0).toNat + (rank - (offset.getD 0).toNat) = rank := by omega
  rw [window, List.getElem?_take, if_pos inside, List.getElem?_drop, behind]
  exact ranked

namespace World

def blockBy (world : World) (checksums : Checksums) (orders : TaskOrders) (row : Row) :
    Except Failure Block :=
  (Store.readBlock row).bind fun stored =>
    (((world.sources checksums).assembleBy orders stored).outcome .start).1

variable {world : World} {checksums : Checksums} {row : Row} (reliable : world.Reliable)

include reliable

theorem assemble_by_yields (checksums : Checksums) (orders : TaskOrders) (stored : StoredBlock) :
    ((world.sources checksums).assembleBy orders stored).Yields
      (((world.sources checksums).assembleBy orders stored).outcome .start).1 := by
  obtain ⟨result, yields, _⟩ := Sources.assemble_by_agrees reliable checksums orders stored
  rw [yields .start]
  exact yields

theorem block_by_agrees (checksums : Checksums) (row : Row) (orders : TaskOrders) :
    Agree (world.tables.blockOf checksums row) (world.blockBy checksums orders row) := by
  rw [Tables.blockOf, blockBy]
  cases Store.readBlock row with
  | error failure => exact Agree.refl _
  | ok stored =>
      obtain ⟨result, yields, agree⟩ := Sources.assemble_by_agrees reliable checksums orders stored
      rw [← yields .start] at agree
      exact agree

/-- A block that is shown in one order is shown in every other. -/
theorem block_by_other_order {orders : TaskOrders} {block : Block}
    (found : world.blockBy checksums orders row = .ok block) (other : TaskOrders) :
    world.blockBy checksums other row = .ok block := by
  have agree := block_by_agrees reliable checksums row orders
  have again := block_by_agrees reliable checksums row other
  rw [found] at agree
  rw [agree.eq_ok] at again
  exact again.of_ok

theorem block_by_of_store (complete : world.tables.Complete) (listed : row ∈ world.tables.blocks)
    (checksums : Checksums) (orders : TaskOrders) :
    ∃ result : Except StoreFault Block,
      world.blockBy checksums orders row = result.mapError Failure.store := by
  have agree := block_by_agrees reliable checksums row orders
  cases found : world.blockBy checksums orders row with
  | ok block => exact ⟨.ok block, rfl⟩
  | error failure =>
      rw [found] at agree
      obtain ⟨other, failed, same⟩ := agree.eq_error
      have malformed := Tables.block_of_error_is_malformed complete listed failed
      obtain ⟨table, fields, rfl⟩ : failure.IsMalformedRow := by
        rcases same with rfl | direct
        · exact malformed
        · exact direct
      exact ⟨.error (.malformedRow table fields), rfl⟩

theorem block_found (checksums : Checksums) {search : Explore (Option StoredBlock)} {fanout : Nat}
    (found : search.Yields (Store.readSome Store.readBlock (some row)))
    (schedule : Schedule fanout) :
    (Found.block <$> (search >>= (world.sources checksums).assembleSomeInTurns schedule)).Yields
      (((world.blockBy checksums schedule.orders row).map some).map Found.block) := by
  refine Yields.map ?_ _
  rw [Store.readSome] at found
  rw [blockBy]
  cases known : Store.readBlock row with
  | error failure =>
      rw [known] at found
      exact found.bind_error
  | ok stored =>
      rw [known] at found
      exact found.bind_ok ((assemble_by_yields reliable checksums _ stored).map some)

theorem annotate_by_yields (checksums : Checksums) {orders : TaskOrders}
    {inner : StoredBlock → TaskOrders} {height : Int} {epoch : Nat} {stored : StoredBlock}
    (cell : row.cell? (.header .height) = some (.int height))
    (answered : (world.node.epoch height).Yields (.ok epoch))
    (known : Store.readBlock row = .ok stored) (ordered : inner stored = orders) :
    ((world.sources checksums).annotateBy inner stored).Yields
      ((world.blockBy checksums orders row).map fun block => ⟨block, epoch⟩) := by
  have agree := block_by_agrees reliable checksums row orders
  have assembled := assemble_by_yields reliable checksums orders stored
  have own : world.blockBy checksums orders row =
      (((world.sources checksums).assembleBy orders stored).outcome .start).1 := by
    rw [blockBy, known]
    rfl
  rw [← own, ← ordered] at assembled
  rw [← ordered] at agree ⊢
  cases shown : world.blockBy checksums (inner stored) row with
  | error failure =>
      rw [shown] at assembled
      exact assembled.bind_error
  | ok block =>
      rw [shown] at assembled agree
      rw [← Tables.height_of_block_of agree.eq_ok cell] at answered
      exact assembled.bind_ok (answered.bind_map fun _ => yields_pure _)

/-- On a page, a row comes to its block alone as long as the node has an epoch for it. -/
theorem block_of_comes_to {orders : TaskOrders} {inner : StoredBlock → TaskOrders} {height : Int}
    {epoch : Nat} {found : Except Failure EpochBlock}
    (cell : row.cell? (.header .height) = some (.int height))
    (answered : (world.node.epoch height).Yields (.ok epoch))
    (ordered : ∀ stored, Store.readBlock row = .ok stored → inner stored = orders)
    (comes : row.ComesTo (fun stored result =>
      ((world.sources checksums).annotateBy inner stored).Yields result ∧
        Agree (world.epochBlock checksums stored) result) found) :
    found.map EpochBlock.block = world.blockBy checksums orders row := by
  cases comes with
  | unread fault =>
      rw [blockBy, fault]
      rfl
  | read known does =>
      have annotated := annotate_by_yields reliable checksums cell answered known (ordered _ known)
      rw [does.1.unique annotated]
      cases world.blockBy checksums orders row <;> rfl

omit reliable

/-- A page that no other row fails has at each place what the row at this place comes to. -/
theorem place_of_collects {α : Type} {verdict : Row → Except Failure EpochBlock → Prop}
    {rows : List Row} {page : Except Failure (List EpochBlock)} {place : Nat}
    {shown : Except Failure α} {f : EpochBlock → α} (collects : Collects verdict rows page)
    (placed : rows[place]? = some row) (own : ∀ found, verdict row found → found.map f = shown)
    (others : ∀ other ∈ rows, other ≠ row → ∀ failure, ¬verdict other (.error failure)) :
    page.map (fun blocks => blocks[place]?.map f) = shown.map some := by
  obtain ⟨bound, same⟩ := List.getElem?_eq_some_iff.mp placed
  cases collects with
  | @all blocks each =>
      have blockBound : place < blocks.length := by
        rw [← each.length_eq]
        exact bound
      have found : verdict rows[place] (.ok blocks[place]) := each.get bound blockBound
      rw [same] at found
      rw [← own _ found, Except.map, List.getElem?_eq_getElem blockBound]
      rfl
  | @failed other failure member fault =>
      by_cases same : other = row
      · rw [← own _ (same ▸ fault)]
        rfl
      · exact absurd fault (others other member same failure)

/-- A page that fails for no other row has the block of a row at the place of the row. -/
theorem page_at_rank (reliable : world.Reliable) {orders outer : TaskOrders}
    {inner : StoredBlock → TaskOrders} {height count : Int} {offset : Option Int}
    {rank epoch : Nat} (cell : row.cell? (.header .height) = some (.int height))
    (ordered : ∀ stored, Store.readBlock row = .ok stored → inner stored = orders)
    (counted : 0 ≤ count) (shifted : ∀ start ∈ offset, 0 ≤ start)
    (ranked : (Tables.byHeight world.tables.blocks)[rank]? = some row)
    (above : offset.getD 0 ≤ rank) (below : rank < offset.getD 0 + count)
    (answered : (world.node.epoch height).Yields (.ok epoch))
    (others : ∀ other ∈ world.tables.window count offset, other ≠ row →
      ∃ annotated, world.Shows checksums other annotated) :
    ∃ page : Except Failure (List EpochBlock),
      ((world.sources checksums).pageBy outer inner count offset).Yields (page.map Latest.page) ∧
      page.map (fun blocks => blocks[rank - (offset.getD 0).toNat]?.map EpochBlock.block) =
        (world.blockBy checksums orders row).map some := by
  obtain ⟨page, yields, collects⟩ := page_by_collects reliable checksums outer inner counted
    (Tables.start_nonneg shifted)
  refine ⟨page, yields, ?_⟩
  refine place_of_collects collects (Tables.window_at_rank ranked above below)
    (fun _ => block_of_comes_to reliable cell answered ordered) ?_
  -- No other row of the page fails, so its failure can only be that of this row.
  intro other present different failure comes
  obtain ⟨annotated, shown⟩ := others other present different
  have agree := agree_of_comes_to comes
  rw [(shows_iff reliable).mp shown] at agree
  cases agree

end World

/-- Where ids and heights are keys, every row of the table of blocks is found in all ways: by its
id, written or not, by its height, and at its rank in a page of the latest blocks that fails for no
other row. In whatever turns the transactions are classified, all come to the same block, or to the
same fault of the store. The block does not depend on the turns; which fault is met may. -/
theorem entries_agree_on_keyed_blocks (world : World) (checksums : Checksums)
    (reliable : world.Reliable) (complete : world.tables.Complete) (keyed : world.tables.Keyed)
    (row : Row) (member : row ∈ world.tables.blocks) :
    ∃ (id : Bytes) (height : Int) (result : TaskOrders → Except StoreFault Block),
      row.cell? .blockId = some (.bytes id) ∧ row.cell? (.header .height) = some (.int height) ∧
      (∀ (fanout : Nat) (schedule : Schedule fanout),
        world.EntriesAgree checksums schedule row id height
          (((result schedule.orders).mapError Failure.store).map some)) ∧
      ∀ orders other block, result orders = .ok block → result other = .ok block := by
  obtain ⟨id, filled, idCell⟩ := keyed.ids row member
  obtain ⟨height, lower, upper, heightCell⟩ := keyed.heights row member
  have limit : maxHeight = 9223372036854775807 := by decide
  have byHash := reliable.block_by_hash_yields id
  have byHeight := reliable.block_by_height_yields height
  rw [keyed.with_id member idCell] at byHash
  rw [keyed.at_height member heightCell] at byHeight
  choose result found using World.block_by_of_store reliable complete member checksums
  refine ⟨id, height, result, idCell, heightCell, fun fanout schedule => ?agree, ?fixed⟩
  case agree =>
    have block := World.block_found reliable checksums byHash schedule
    rw [found] at block
    constructor
    case byHashText =>
      rw [Sources.lookInTurns, BlockHash.parse_upper filled]
      exact block
    case byHash => exact block
    case byId => exact block
    case byHeight =>
      have there := World.block_found reliable checksums byHeight schedule
      rw [found] at there
      rw [Sources.lookInTurns, Sources.byHeightInTurns, if_neg (by omega), if_neg (by omega)]
      exact there
    case page =>
      intro outer inner count offset rank epoch ordered counted shifted ranked above below
        answered others
      rw [← found]
      exact World.page_at_rank reliable heightCell ordered counted shifted ranked above below
        answered others
  case fixed =>
    intro orders other block same
    have shown := found orders
    rw [same] at shown
    have again := World.block_by_other_order reliable shown other
    rw [found other] at again
    exact map_error_eq_ok_iff.mp again

namespace SmallStore

theorem keyed : tables.Keyed where
  ids := by
    intro row member
    simp only [tables, List.mem_cons, List.not_mem_nil, or_false] at member
    rcases member with rfl | rfl | rfl
    · exact ⟨[1], by decide, rfl⟩
    · exact ⟨[2], by decide, rfl⟩
    · exact ⟨[3], by decide, rfl⟩
  heights := by
    intro row member
    simp only [tables, List.mem_cons, List.not_mem_nil, or_false] at member
    rcases member with rfl | rfl | rfl
    · exact ⟨5, by decide, by decide, rfl⟩
    · exact ⟨9, by decide, by decide, rfl⟩
    · exact ⟨7, by decide, by decide, rfl⟩
  distinctIds := by
    have cells (id : Bytes) (height : Int) :
        (blockRow id height).cell? .blockId = some (.bytes id) := rfl
    simp [tables, cells]
  distinctHeights := by
    have cells (id : Bytes) (height : Int) :
        (blockRow id height).cell? (.header .height) = some (.int height) := rfl
    simp [tables, cells]

end SmallStore

/-- The lowest of three blocks by the text of its id and behind the two others. -/
theorem entries_agree_on_keyed_blocks_small_store :
    SmallStore.world.Reliable ∧ SmallStore.tables.Complete ∧ SmallStore.tables.Keyed ∧
      SmallStore.blockRow [1] 5 ∈ SmallStore.tables.blocks ∧
      ((SmallStore.world.sources SmallStore.checksums).look
        (.byHashText (Text.ofString "01"))).Yields (.ok (.block (some SmallStore.firstBlock))) ∧
      ∃ page : Except Failure (List EpochBlock),
        ((SmallStore.world.sources SmallStore.checksums).latest (some 1) (some 2)).Yields
          (page.map Latest.page) ∧
        page.map (fun blocks => blocks[0]?.map EpochBlock.block) =
          .ok (some SmallStore.firstBlock) := by
  have member : SmallStore.blockRow [1] 5 ∈ SmallStore.tables.blocks := List.mem_cons_self
  obtain ⟨id, height, result, idCell, heightCell, agree, _⟩ := entries_agree_on_keyed_blocks
    SmallStore.world SmallStore.checksums SmallStore.reliable SmallStore.complete SmallStore.keyed
    _ member
  cases idCell
  cases heightCell
  have inOrder := agree 1 (Schedule.inOrder Nat.one_pos)
  generalize result (Schedule.inOrder Nat.one_pos).orders = shown at inOrder
  have byHash := inOrder.byHash
  rw [Sources.look_in_order] at byHash
  have first := byHash.unique ((Sources.by_hash_yields SmallStore.reliable SmallStore.checksums
    [1]).map Found.block)
  cases shown with
  | error fault => cases first
  | ok block =>
      cases first
      have byHashText := inOrder.byHashText
      rw [Sources.look_in_order] at byHashText
      refine ⟨SmallStore.reliable, SmallStore.complete, SmallStore.keyed, member, byHashText, ?_⟩
      have paged := inOrder.page (Schedule.inOrder Nat.one_pos).orders
        (fun _ => (Schedule.inOrder Nat.one_pos).orders) 1 (some 2) 2 1 (fun _ _ => rfl) (by decide)
        ?shifted rfl (by decide) (by decide)
        (Node.epoch_yields_iff.mpr (SmallStore.epoch_of_node (by decide) (by decide))) ?others
      case shifted =>
        intro start same
        cases same
        decide
      case others =>
        intro other present different
        have only : SmallStore.world.tables.window 1 (some 2) = [SmallStore.blockRow [1] 5] := rfl
        rw [only] at present
        exact absurd (List.mem_singleton.mp present) different
      rw [← Sources.page_in_order _ Nat.one_pos]
      exact paged

end BlockExplorer
