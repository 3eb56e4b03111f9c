import BlockExplorer.Proofs.Retrieval
import BlockExplorer.Proofs.Scheduling

/-!
The last block and a page of one. Both read the row that stands first in descending order, and both
do with it what they do with any row, so that they come to the same block or fail in the same way.
Only a store without blocks tells them apart: it has no last block, but an empty page.
-/

namespace BlockExplorer

open Explore

namespace Store

theorem read_all_singleton {α : Type} (reader : Row → Except Failure α) (row : Row) :
    readAll reader [row] = (reader row).map fun content => [content] := by
  simp only [readAll]
  cases reader row <;> rfl

end Store

namespace World

variable {world : World}

/-- The latest row and the first row of a page are asked for in different words. -/
theorem reply_latest_block :
    world.reply .latestBlock = world.reply (.blockPage 1 0) := rfl

/-- Where there are blocks, the last one and a page of one read the same row. -/
theorem latest_row_yields (filled : world.tables.blocks ≠ [])
    (complete : ∀ row ∈ world.tables.blocks, ∀ column, (row.cell? column).isSome) :
    ∃ read : Except Failure StoredBlock,
      (Store.latestBlock (some world.connection)).Yields read ∧
      (Store.latestBlocks (some world.connection) 1 (some 0)).Yields
        (read.map fun stored => [stored]) := by
  obtain ⟨top, rest, sorted⟩ : ∃ top rest, Tables.byHeight world.tables.blocks = top :: rest := by
    apply List.exists_cons_of_ne_nil
    intro none
    apply filled
    rw [← List.length_eq_zero_iff, ← Tables.length_by_height, none, List.length_nil]
  have listed : top ∈ world.tables.blocks := by
    rw [← Tables.mem_by_height, sorted]
    exact List.mem_cons_self
  have solid := Row.nonempty_of_cell (complete top listed .blockId)
  have first : ([top].head?.filter fun row => !row.isEmpty) = some top := by
    simp only [List.head?_cons, Option.filter_some, solid, Bool.not_false, if_true]
  have one := Store.ask_one_yields world.connection .latestBlock
  have many := Store.latest_blocks_yields world.connection 1 (some 0)
  rw [reply_connection, reply_latest_block] at one
  cases known : world.fault? (some .blocks) with
  | some fault =>
      have refused : world.reply (.blockPage 1 0) = .error fault := by
        simp [reply, Query.table?, known]
      rw [refused] at one
      rw [reply_connection, Option.getD_some, refused] at many
      exact ⟨.error (Store.failureOf .queryFailed fault), Store.latest_block_yields one, many⟩
  | none =>
      have answered : world.reply (.blockPage 1 0) = .ok [top] := by
        simp [reply, Query.table?, known, Tables.answer, sorted]
      rw [answered] at one
      rw [reply_connection, Option.getD_some, answered] at many
      refine ⟨Store.readBlock top, ?_, ?_⟩
      · have read := Store.latest_block_yields one
        simp only [Except.mapError, Except.map, first] at read
        exact read
      · rw [← Store.read_all_singleton]
        exact many

/-- Where there are no blocks, nothing is read. -/
theorem no_row_yields (none : world.tables.blocks = [])
    (answered : world.fault? (some .blocks) = .none) :
    (Store.latestBlock (some world.connection)).Yields (.error (.store .empty)) ∧
    (Store.latestBlocks (some world.connection) 1 (some 0)).Yields (.ok []) := by
  have empty : world.reply (.blockPage 1 0) = .ok [] := by
    simp [reply, Query.table?, answered, Tables.answer, none, Tables.byHeight]
  have one := Store.ask_one_yields world.connection .latestBlock
  have many := Store.latest_blocks_yields world.connection 1 (some 0)
  rw [reply_connection, reply_latest_block, empty] at one
  rw [reply_connection, Option.getD_some, empty] at many
  exact ⟨Store.latest_block_yields one, many⟩

end World

section

variable {α β : Type} {run : Explore β} {shown : Except Failure α} {form : α → β}
  (yields : run.Yields (shown.map form))

include yields

theorem Explore.yields_ok_iff_of_map (injective : Function.Injective form) (content : α) :
    run.Yields (.ok (form content)) ↔ shown = .ok content := by
  constructor
  · intro found
    cases shown with
    | error failure => cases yields.unique found
    | ok other => rw [injective (Except.ok.inj (yields.unique found))]
  · rintro rfl
    exact yields

theorem Explore.yields_error_iff_of_map (failure : Failure) :
    run.Yields (.error failure) ↔ shown = .error failure := by
  constructor
  · intro failed
    cases shown with
    | error other => rw [Except.error.inj (yields.unique failed)]
    | ok content => cases yields.unique failed
  · rintro rfl
    exact yields

end

namespace Sources

variable (sources : Sources) {fanout : Nat} (schedule : Schedule fanout)

theorem page_of_one_eq :
    sources.pageInTurns schedule 1 (some 0) =
      Store.latestBlocks sources.connection 1 (some 0) >>= fun rows =>
        gather (sources.annotateInTurns schedule) (schedule rows.length).order rows >>=
          fun blocks => pure (.page blocks) := rfl

/-- What is read alike is shown alike. -/
theorem shown_alike {read : Except Failure StoredBlock}
    (one : (Store.latestBlock sources.connection).Yields read)
    (many : (Store.latestBlocks sources.connection 1 (some 0)).Yields
      (read.map fun stored => [stored])) :
    ∃ shown : Except Failure EpochBlock,
      (sources.lastInTurns schedule).Yields (shown.map Latest.last) ∧
      (sources.pageInTurns schedule 1 (some 0)).Yields
        (shown.map fun block => Latest.page [block]) := by
  rw [page_of_one_eq]
  cases read with
  | error failure => exact ⟨.error failure, one.bind_error, many.bind_error⟩
  | ok stored =>
      have annotated :=
        (sources.steps_uniform.annotate_in_turns uniform_composable schedule stored).yields
      have alone := annotated.map fun block => [block]
      rw [← gather_singleton _ (schedule 1)] at alone
      generalize ((sources.annotateInTurns schedule stored).outcome .start).1 = shown
        at annotated alone
      refine ⟨shown, one.bind_ok (annotated.bind_map fun _ => yields_pure _), many.bind_ok ?_⟩
      have paged := alone.bind_map fun blocks => yields_pure (Latest.page blocks)
      cases shown with
      | error failure => exact paged
      | ok block => exact paged

theorem shown_empty {failure : Failure}
    (one : (Store.latestBlock sources.connection).Yields (.error failure))
    (many : (Store.latestBlocks sources.connection 1 (some 0)).Yields (.ok [])) :
    (sources.lastInTurns schedule).Yields (.error failure) ∧
    (sources.pageInTurns schedule 1 (some 0)).Yields (.ok (.page [])) := by
  refine ⟨one.bind_error, ?_⟩
  rw [page_of_one_eq]
  apply many.bind_ok
  rw [gather_nil, pure_bind]
  exact yields_pure _

end Sources

/-- Where there are blocks, the last block is the one on a page of one: both questions come to the
same block, or to the same failure, whatever offset is given without a count and whatever faults the
database and the node have. Where there are none, the last block is missed as a fault of the store,
and the page is empty. -/
theorem last_block_is_page_of_one (world : World) (checksums : Checksums)
    (complete : ∀ row ∈ world.tables.blocks, ∀ column, (row.cell? column).isSome) {fanout : Nat}
    (schedule : Schedule fanout) (offset : Option Int) :
    let last := (world.sources checksums).lookInTurns schedule (.latest none offset)
    let page := (world.sources checksums).lookInTurns schedule (.latest (some 1) (some 0))
    (world.tables.blocks ≠ [] →
      (∃ shown : Except Failure EpochBlock,
        last.Yields (shown.map fun block => .latest (.last block)) ∧
        page.Yields (shown.map fun block => .latest (.page [block]))) ∧
      (∀ block, last.Yields (.ok (.latest (.last block))) ↔
        page.Yields (.ok (.latest (.page [block])))) ∧
      ∀ failure, last.Yields (.error failure) ↔ page.Yields (.error failure)) ∧
    (world.tables.blocks = [] → world.fault? (some .blocks) = none →
      last.Yields (.error (.store .empty)) ∧ page.Yields (.ok (.latest (.page [])))) := by
  intro last page
  constructor
  · intro filled
    obtain ⟨read, one, many⟩ := World.latest_row_yields filled complete
    obtain ⟨shown, lastShown, pageShown⟩ :=
      (world.sources checksums).shown_alike schedule one many
    have lastFound : last.Yields (shown.map fun block => .latest (.last block)) := by
      have found := lastShown.map Found.latest
      cases shown <;> exact found
    have pageFound : page.Yields (shown.map fun block => .latest (.page [block])) := by
      have found := pageShown.map Found.latest
      cases shown <;> exact found
    refine ⟨⟨shown, lastFound, pageFound⟩, ?_, ?_⟩
    · intro block
      rw [yields_ok_iff_of_map lastFound, yields_ok_iff_of_map pageFound]
      · intro first second same
        cases same
        rfl
      · intro first second same
        cases same
        rfl
    · intro failure
      rw [yields_error_iff_of_map lastFound, yields_error_iff_of_map pageFound]
  · intro none answered
    obtain ⟨one, many⟩ := World.no_row_yields none answered
    obtain ⟨missed, paged⟩ := (world.sources checksums).shown_empty schedule one many
    exact ⟨missed.map Found.latest, paged.map Found.latest⟩

theorem last_block_is_page_of_one_small_store :
    let turns := Schedule.inOrder Nat.one_pos
    let small := SmallStore.world.sources SmallStore.checksums
    let empty := { SmallStore.world with tables := ⟨[], [], []⟩ }.sources SmallStore.checksums
    SmallStore.tables.blocks ≠ [] ∧
    (∀ row ∈ SmallStore.tables.blocks, ∀ column, (row.cell? column).isSome) ∧
    (∀ block : EpochBlock,
      (small.lookInTurns turns (.latest none (some (-3)))).Yields (.ok (.latest (.last block))) ↔
        (small.lookInTurns turns (.latest (some 1) (some 0))).Yields
          (.ok (.latest (.page [block])))) ∧
    (empty.lookInTurns turns (.latest none none)).Yields (.error (.store .empty)) ∧
    (empty.lookInTurns turns (.latest (some 1) (some 0))).Yields (.ok (.latest (.page []))) := by
  have filled : SmallStore.tables.blocks ≠ [] := by simp [SmallStore.tables]
  have complete := SmallStore.complete.blocks
  have agree := last_block_is_page_of_one SmallStore.world SmallStore.checksums complete
    (Schedule.inOrder Nat.one_pos) (some (-3))
  have apart := last_block_is_page_of_one { SmallStore.world with tables := ⟨[], [], []⟩ }
    SmallStore.checksums (by simp) (Schedule.inOrder Nat.one_pos) none
  exact ⟨filled, complete, (agree.1 filled).2.1, apart.2 rfl rfl⟩

end BlockExplorer
