import Mathlib.Algebra.Order.BigOperators.Group.List
import Mathlib.Algebra.Ring.Int.Defs
import BlockExplorer.Proofs.Pages
import BlockExplorer.Proofs.Scheduling

/-!
Pages side by side. A page is shown exactly if every row of its window is, so a range of the latest
blocks comes to the same whether it is asked for at once or page by page, and no block of it is lost
or shown twice. This holds of any tables, of pages that reach beyond the last block, and of a
database that refuses some of its tables.
-/

namespace BlockExplorer

open Collecting Explore

namespace Sources

/-- A request for `count` of the latest blocks behind the first `offset` shows these blocks, in
every session, however many of them are under way at a time and in whatever turns. -/
structure Serves (sources : Sources) (count offset : Int) (blocks : List EpochBlock) : Prop where
  alone : (sources.latest (some count) (some offset)).Yields (.ok (.page blocks))
  inTurns : ∀ (fanout : Nat) (schedule : Schedule fanout),
    (sources.pageInTurns schedule count (some offset)).Yields (.ok (.page blocks))

/-- Requests for pages of these sizes, the first behind `offset` blocks and each of the others where
the one before it ends, show these pages. -/
inductive ServesPages (sources : Sources) :
    (sizes : List Int) → (offset : Int) → (pages : List (List EpochBlock)) → Prop
  | done {offset : Int} : ServesPages sources [] offset []
  | page {size offset : Int} {sizes : List Int} {blocks : List EpochBlock}
      {pages : List (List EpochBlock)} (first : sources.Serves size offset blocks)
      (rest : ServesPages sources sizes (offset + size) pages) :
      ServesPages sources (size :: sizes) offset (blocks :: pages)

section

variable {sources : Sources} {count offset : Int} {blocks : List EpochBlock}

theorem annotate_yields_ok_iff {stored : StoredBlock} {annotated : EpochBlock} :
    (sources.annotate stored).Yields (.ok annotated) ↔
      (sources.assemble stored).Yields (.ok annotated.block) ∧
        (sources.node.epoch annotated.height).Yields (.ok annotated.epoch) := by
  rw [annotate, (sources.assemble_uniform stored).bind_yields_ok_iff fun block =>
    (sources.node.epoch_uniform _).bind fun _ => uniform_pure _]
  simp only [(sources.node.epoch_uniform _).bind_yields_ok_iff fun _ => uniform_pure _,
    pure_yields_ok_iff]
  constructor
  · rintro ⟨block, assembled, epochFound, asked, rfl⟩
    exact ⟨assembled, asked⟩
  · rintro ⟨assembled, asked⟩
    exact ⟨annotated.block, assembled, annotated.epoch, asked, rfl⟩

theorem serves_of_yields
    (yields : (sources.latest (some count) (some offset)).Yields (.ok (.page blocks))) :
    sources.Serves count offset blocks where
  alone := yields
  inTurns _ schedule :=
    (sources.page_by_alike schedule.orders (fun _ => schedule.orders) count
      (some offset)).symm.yields_ok yields

theorem serves_iff_read (counted : 0 ≤ count) (shifted : 0 ≤ offset) :
    sources.Serves count offset blocks ↔ ∃ stored,
      (Store.latestBlocks sources.connection count (some offset)).Yields (.ok stored) ∧
        List.Forall₂ (fun row annotated => (sources.annotate row).Yields (.ok annotated))
          stored blocks := by
  have listed : (Store.latestBlocks sources.connection count (some offset)).Uniform :=
    sources.steps_uniform.fetched uniform_composable (.blockPage count offset) _
  have page : sources.latest (some count) (some offset) =
      Store.latestBlocks sources.connection count (some offset) >>= fun rows =>
        sources.annotateAll rows >>= fun blocks => pure (.page blocks) := by
    rw [latest, Sources.page, if_neg (by omega), Option.getD_some, if_neg (by omega)]
  have each (stored : List StoredBlock) (found : List EpochBlock) :
      (sources.annotateAll stored).Yields (.ok found) ↔
        List.Forall₂ (fun row annotated => (sources.annotate row).Yields (.ok annotated))
          stored found := by
    rw [← sources.annotate_all_eq, one_by_one_yields_ok_iff sources.annotate_uniform]
  have served : sources.Serves count offset blocks ↔
      (sources.latest (some count) (some offset)).Yields (.ok (.page blocks)) :=
    ⟨Serves.alone, serves_of_yields⟩
  rw [served, page, listed.bind_yields_ok_iff fun rows =>
    (sources.annotate_all_uniform rows).bind fun _ => uniform_pure _]
  simp only [(sources.annotate_all_uniform _).bind_yields_ok_iff fun _ => uniform_pure _,
    pure_yields_ok_iff, each, Latest.page.injEq, exists_eq_right']

end

end Sources

namespace World

variable {world : World} {checksums : Checksums}

theorem shows_iff_annotates {row : Row} {annotated : EpochBlock} :
    world.Shows checksums row annotated ↔ ∃ stored, Store.readBlock row = .ok stored ∧
      ((world.sources checksums).annotate stored).Yields (.ok annotated) := by
  simp only [Sources.annotate_yields_ok_iff]
  constructor
  · rintro ⟨⟨stored, read, assembled⟩, answered⟩
    exact ⟨stored, read, assembled, answered⟩
  · rintro ⟨stored, read, assembled, answered⟩
    exact ⟨⟨stored, read, assembled⟩, answered⟩

theorem reply_page_eq_ok_iff {count offset : Int} {rows : List Row} :
    world.reply (.blockPage count offset) = .ok rows ↔
      world.fault? (some .blocks) = none ∧ rows = world.tables.window count (some offset) := by
  rw [reply, Query.table?]
  cases world.fault? (some .blocks) with
  | some fault => simp
  | none => simp [Tables.answer, Tables.window, eq_comm]

theorem latest_blocks_yields_ok_iff {count offset : Int} {stored : List StoredBlock} :
    (Store.latestBlocks (some world.connection) count (some offset)).Yields (.ok stored) ↔
      world.fault? (some .blocks) = none ∧
        List.Forall₂ (fun row block => Store.readBlock row = .ok block)
          (world.tables.window count (some offset)) stored := by
  have yields := Store.latest_blocks_yields world.connection count (some offset)
  rw [reply_connection, Option.getD_some] at yields
  have same : (Store.latestBlocks (some world.connection) count (some offset)).Yields
      (.ok stored) ↔ ((world.reply (.blockPage count offset)).mapError
        (Store.failureOf .queryFailed)).bind (Store.readAll Store.readBlock) = .ok stored := by
    constructor
    · exact yields.unique
    · intro result
      rw [← result]
      exact yields
  rw [same, bind_eq_ok_iff]
  simp only [map_error_eq_ok_iff, reply_page_eq_ok_iff, read_all_eq_map_m, map_m_eq_ok_iff]
  constructor
  · rintro ⟨_, ⟨reachable, rfl⟩, read⟩
    exact ⟨reachable, read⟩
  · rintro ⟨reachable, read⟩
    exact ⟨_, ⟨reachable, rfl⟩, read⟩

/-- A page is shown exactly if the table of blocks answers and every row of the window is shown. -/
theorem serves_iff {count offset : Int} (counted : 0 ≤ count) (shifted : 0 ≤ offset)
    {blocks : List EpochBlock} :
    (world.sources checksums).Serves count offset blocks ↔
      world.fault? (some .blocks) = none ∧
        List.Forall₂ (world.Shows checksums) (world.tables.window count (some offset)) blocks := by
  have each : List.Forall₂ (world.Shows checksums)
      (world.tables.window count (some offset)) blocks ↔
        ∃ stored, List.Forall₂ (fun row block => Store.readBlock row = .ok block)
            (world.tables.window count (some offset)) stored ∧
          List.Forall₂ (fun row annotated =>
            ((world.sources checksums).annotate row).Yields (.ok annotated)) stored blocks := by
    rw [← forall₂_exists_iff]
    simp only [← shows_iff_annotates]
  rw [Sources.serves_iff_read counted shifted, each]
  constructor
  · rintro ⟨stored, read, annotated⟩
    obtain ⟨reachable, rows⟩ := latest_blocks_yields_ok_iff.mp read
    exact ⟨reachable, stored, rows, annotated⟩
  · rintro ⟨reachable, stored, rows, annotated⟩
    exact ⟨stored, latest_blocks_yields_ok_iff.mpr ⟨reachable, rows⟩, annotated⟩

end World

theorem Tables.window_add (tables : Tables) {first second offset : Int} (counted : 0 ≤ first)
    (alsoCounted : 0 ≤ second) (shifted : 0 ≤ offset) :
    tables.window (first + second) (some offset) =
      tables.window first (some offset) ++ tables.window second (some (offset + first)) := by
  have rows : (first + second).toNat = first.toNat + second.toNat := by omega
  have places : (offset + first).toNat = offset.toNat + first.toNat := by omega
  simp only [Tables.window, Option.getD_some, rows, places, List.take_add, List.drop_drop]

namespace World

variable {world : World} {checksums : Checksums}

theorem serves_add_iff {first second offset : Int} (counted : 0 ≤ first)
    (alsoCounted : 0 ≤ second) (shifted : 0 ≤ offset) {blocks : List EpochBlock} :
    (world.sources checksums).Serves (first + second) offset blocks ↔
      ∃ upper lower, (world.sources checksums).Serves first offset upper ∧
        (world.sources checksums).Serves second (offset + first) lower ∧
        blocks = upper ++ lower := by
  rw [serves_iff (by omega) shifted, world.tables.window_add counted alsoCounted shifted]
  constructor
  · rintro ⟨reachable, whole⟩
    let rows := (world.tables.window first (some offset)).length
    have upper := List.forall₂_take rows whole
    have lower := List.forall₂_drop rows whole
    rw [List.take_left] at upper
    rw [List.drop_left] at lower
    refine ⟨blocks.take rows, blocks.drop rows, ?_, ?_, (List.take_append_drop rows blocks).symm⟩
    · exact (serves_iff counted shifted).mpr ⟨reachable, upper⟩
    · exact (serves_iff alsoCounted (by omega)).mpr ⟨reachable, lower⟩
  · rintro ⟨upper, lower, head, tail, rfl⟩
    obtain ⟨reachable, above⟩ := (serves_iff counted shifted).mp head
    obtain ⟨_, below⟩ := (serves_iff alsoCounted (by omega)).mp tail
    exact ⟨reachable, List.rel_append above below⟩

theorem serves_sum_iff {size offset : Int} {sizes : List Int}
    (counted : ∀ each ∈ size :: sizes, 0 ≤ each) (shifted : 0 ≤ offset)
    {blocks : List EpochBlock} :
    (world.sources checksums).Serves (size :: sizes).sum offset blocks ↔
      ∃ pages, (world.sources checksums).ServesPages (size :: sizes) offset pages ∧
        blocks = pages.flatten := by
  induction sizes generalizing size offset blocks with
  | nil =>
      rw [List.sum_singleton]
      constructor
      · intro served
        exact ⟨[blocks], .page served .done, by simp⟩
      · rintro ⟨_, paged, rfl⟩
        cases paged with
        | page first rest =>
            cases rest
            simpa using first
  | cons next sizes induction =>
      have here : 0 ≤ size := counted size List.mem_cons_self
      have further : ∀ each ∈ next :: sizes, 0 ≤ each := fun each member =>
        counted each (List.mem_cons_of_mem size member)
      have rest : 0 ≤ (next :: sizes).sum := List.sum_nonneg further
      rw [List.sum_cons, serves_add_iff here rest shifted]
      simp only [induction further (show 0 ≤ offset + size by omega)]
      constructor
      · rintro ⟨upper, _, first, ⟨pages, paged, rfl⟩, rfl⟩
        exact ⟨upper :: pages, .page first paged, rfl⟩
      · rintro ⟨_, paged, rfl⟩
        cases paged with
        | page first rest => exact ⟨_, _, first, ⟨_, rest, rfl⟩, rfl⟩

theorem serves_of_finds {count offset : Int} (counted : 0 ≤ count) (shifted : 0 ≤ offset)
    {found : Latest}
    (finds : ((world.sources checksums).latest (some count) (some offset)).Finds found) :
    ∃ blocks, found = .page blocks ∧ (world.sources checksums).Serves count offset blocks := by
  have uniform : ((world.sources checksums).latest (some count) (some offset)).Uniform := by
    rw [← Sources.page_in_order _ Nat.one_pos]
    exact (world.sources checksums).steps_uniform.page_in_turns uniform_composable _ count _
  have yields := uniform.yields_of_finds finds
  have page := finds
  rw [Sources.latest, Sources.page, if_neg (by omega), Option.getD_some, if_neg (by omega)] at page
  obtain ⟨rows, _, others⟩ := finds_bind page
  obtain ⟨blocks, _, last⟩ := finds_bind others
  cases eq_of_finds_pure last
  exact ⟨blocks, rfl, Sources.serves_of_yields yields⟩

end World

/-- Pages tile the chain. A page of `first + second` blocks is shown exactly if the page of `first`
blocks and the page of `second` blocks behind it are, and its blocks are theirs, those of the upper
page first; and so for any number of consecutive pages, empty ones and ones beyond the last block
included. In any case a page shows the rows at its places of the descending order, each once. A page
that is shown in one session is shown in every one. -/
theorem pages_tile (world : World) (checksums : Checksums) (offset : Int) (shifted : 0 ≤ offset) :
    let sources := world.sources checksums
    (∀ first second, 0 ≤ first → 0 ≤ second → ∀ blocks,
      sources.Serves (first + second) offset blocks ↔
        ∃ upper lower, sources.Serves first offset upper ∧
          sources.Serves second (offset + first) lower ∧ blocks = upper ++ lower) ∧
    (∀ size sizes, (∀ each ∈ size :: sizes, 0 ≤ each) → ∀ blocks,
      sources.Serves (size :: sizes).sum offset blocks ↔
        ∃ pages, sources.ServesPages (size :: sizes) offset pages ∧ blocks = pages.flatten) ∧
    ∃ sorted, Tables.Descending world.tables.blocks sorted ∧ ∀ count, 0 ≤ count →
      (∀ blocks, sources.Serves count offset blocks ↔ world.fault? (some .blocks) = none ∧
        List.Forall₂ (world.Shows checksums)
          ((sorted.drop offset.toNat).take count.toNat) blocks) ∧
      ∀ found, (sources.latest (some count) (some offset)).Finds found →
        ∃ blocks, found = .page blocks ∧ sources.Serves count offset blocks := by
  intro sources
  refine ⟨fun first second counted alsoCounted blocks => ?_, fun size sizes counted blocks => ?_,
    _, Tables.by_height_descending world.tables.blocks, fun count counted => ⟨fun blocks => ?_,
      fun found finds => ?_⟩⟩
  · exact World.serves_add_iff counted alsoCounted shifted
  · exact World.serves_sum_iff counted shifted
  · exact World.serves_iff counted shifted
  · exact World.serves_of_finds counted shifted finds

/-- The second and the third block of three on pages of their own, with an empty page between
them. -/
theorem pages_tile_small_store :
    (0 : Int) ≤ 1 ∧ (∀ each ∈ [(1 : Int), 0, 1], 0 ≤ each) ∧
      ∃ pages, (SmallStore.world.sources SmallStore.checksums).ServesPages [1, 0, 1] 1 pages ∧
        [⟨SmallStore.thirdBlock, 1⟩, ⟨SmallStore.firstBlock, 1⟩] = pages.flatten := by
  have sizes : ∀ each ∈ [(1 : Int), 0, 1], 0 ≤ each := by decide
  obtain ⟨_, consecutive, _⟩ :=
    pages_tile SmallStore.world SmallStore.checksums 1 (by decide)
  have whole := Sources.serves_of_yields SmallStore.page_found
  exact ⟨by decide, sizes, (consecutive 1 [0, 1] sizes _).mp whole⟩

end BlockExplorer
