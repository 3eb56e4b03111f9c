import BlockExplorer.Proofs.EpochReplies
import BlockExplorer.Proofs.Ordering
import BlockExplorer.Proofs.Requests
import BlockExplorer.Proofs.Retrieval

/-!
What a page of the latest blocks shows: a window of the rows in descending order, each as the block
that is assembled for it with the epoch that the node gives for the height of this block. A page is
shown whole or not at all, whatever the order in which its blocks are done.
-/

namespace BlockExplorer

open Collecting Explore

def Tables.Integral (tables : Tables) : Prop :=
  ∀ row ∈ tables.blocks, ∃ height : Int, row.cell? (.header .height) = some (.int height)

/-- What a row comes to: the failure to read it, or what the block in it comes to. -/
inductive Row.ComesTo {α : Type} (made : StoredBlock → Except Failure α → Prop) (row : Row) :
    Except Failure α → Prop
  | unread {failure : Failure} (fault : Store.readBlock row = .error failure) :
      ComesTo made row (.error failure)
  | read {stored : StoredBlock} {result : Except Failure α}
      (known : Store.readBlock row = .ok stored) (does : made stored result) :
      ComesTo made row result

namespace World

variable (world : World) (checksums : Checksums)

/-- The block that is assembled for a row, with the epoch that the node gives for its height. -/
structure Shows (row : Row) (annotated : EpochBlock) : Prop where
  block : ∃ stored, Store.readBlock row = .ok stored ∧
    ((world.sources checksums).assemble stored).Yields (.ok annotated.block)
  epoch : (world.node.epoch annotated.height).Yields (.ok annotated.epoch)

structure ShowsPage (rows : List Row) (before after : Session) (blocks : List EpochBlock) :
    Prop where
  each : List.Forall₂ (world.Shows checksums) rows blocks
  heights : blocks.map EpochBlock.height = rows.map Row.height
  falling : blocks.Pairwise fun first second => second.height ≤ first.height
  requests : ∃ sent, after.epochRequests = before.epochRequests ++ sent ∧
    (sent.map fun request => request.height.val).Perm (blocks.map EpochBlock.height)

/-- What a request for `count` blocks behind the first `offset` must come to when `rows` are the
rows that it is about. -/
structure ServesPage (rows : List Row) (count : Int) (offset : Option Int) (session : Session)
    (outcome : Except Failure Latest × Session) : Prop where
  succeeds : (∃ latest, outcome.1 = .ok latest) ↔
    ∀ row ∈ rows, ∃ annotated, world.Shows checksums row annotated
  shown : ∀ latest, outcome.1 = .ok latest → ∃ blocks, latest = .page blocks ∧
    (blocks.length : Int) = min count (max 0 (world.tables.blocks.length - offset.getD 0)) ∧
    world.ShowsPage checksums rows session outcome.2 blocks
  refused : ∀ failure, outcome.1 = .error failure → ∃ row ∈ rows,
    (¬∃ annotated, world.Shows checksums row annotated) ∧
    ((∃ table fields, failure = .store (.malformedRow table fields)) ∨
      ∃ height, row.height? = some height ∧
        (world.node.epoch height).Yields (.error failure))
  nothing : rows = [] →
    outcome = (.ok (.page []), session.record (.query (.blockPage count (offset.getD 0))))

def showing (row : Row) : Except Failure EpochBlock :=
  (world.tables.blockOf checksums row).bind world.withEpoch

variable {world : World} {checksums : Checksums}

theorem with_epoch_eq_ok_iff {block : Block} {annotated : EpochBlock} :
    world.withEpoch block = .ok annotated ↔ block = annotated.block ∧
      world.node.epochOf annotated.height = .ok annotated.epoch := by
  rw [withEpoch, map_eq_ok_iff]
  constructor
  · rintro ⟨epoch, answered, rfl⟩
    exact ⟨rfl, answered⟩
  · rintro ⟨rfl, answered⟩
    exact ⟨annotated.epoch, answered, rfl⟩

theorem showing_eq_ok_iff {row : Row} {annotated : EpochBlock} :
    world.showing checksums row = .ok annotated ↔
      world.tables.blockOf checksums row = .ok annotated.block ∧
        world.node.epochOf annotated.height = .ok annotated.epoch := by
  rw [showing, bind_eq_ok_iff]
  constructor
  · rintro ⟨block, found, noted⟩
    obtain ⟨rfl, answered⟩ := with_epoch_eq_ok_iff.mp noted
    exact ⟨found, answered⟩
  · rintro ⟨found, answered⟩
    exact ⟨annotated.block, found, with_epoch_eq_ok_iff.mpr ⟨rfl, answered⟩⟩

theorem showing_eq_bind (row : Row) :
    world.showing checksums row = (Store.readBlock row).bind (world.epochBlock checksums) := by
  rw [showing, Tables.blockOf]
  cases Store.readBlock row with
  | error failure => rfl
  | ok stored => rfl

theorem shows_iff (reliable : world.Reliable) {row : Row} {annotated : EpochBlock} :
    world.Shows checksums row annotated ↔ world.showing checksums row = .ok annotated := by
  have assembled := Sources.assemble_yields reliable checksums
  rw [showing_eq_ok_iff, Tables.blockOf, bind_eq_ok_iff]
  constructor
  · rintro ⟨⟨stored, read, yields⟩, answered⟩
    exact ⟨⟨stored, read, (assembled stored).unique yields⟩, Node.epoch_yields_iff.mp answered⟩
  · rintro ⟨⟨stored, read, display⟩, answered⟩
    have yields := assembled stored
    rw [display] at yields
    exact ⟨⟨stored, read, yields⟩, Node.epoch_yields_iff.mpr answered⟩

variable {row : Row}

theorem height_of_showing (integral : world.tables.Integral) (listed : row ∈ world.tables.blocks)
    {annotated : EpochBlock} (found : world.showing checksums row = .ok annotated) :
    annotated.height = row.height := by
  obtain ⟨height, cell⟩ := integral row listed
  have block := (showing_eq_ok_iff.mp found).1
  rw [EpochBlock.height, Tables.height_of_block_of block cell, Row.height_of_int_cell cell]

theorem showing_error (complete : world.tables.Complete) (integral : world.tables.Integral)
    (listed : row ∈ world.tables.blocks) {failure : Failure}
    (failed : world.showing checksums row = .error failure) :
    failure.IsMalformedRow ∨ ∃ height, row.height? = some height ∧
      (world.node.epoch height).Yields (.error failure) := by
  obtain ⟨height, cell⟩ := integral row listed
  rcases bind_eq_error_iff.mp failed with hidden | ⟨block, found, asked⟩
  · exact .inl (Tables.block_of_error_is_malformed complete listed hidden)
  · have unanswered := map_eq_error_iff.mp asked
    rw [Tables.height_of_block_of found cell] at unanswered
    exact .inr ⟨height, Row.height?_of_int_cell cell, Node.epoch_yields_iff.mpr unanswered⟩

/-- The blocks of a page are collected from its rows, if those of any stored blocks are. -/
theorem page_collects (reliable : world.Reliable) {count : Int} {offset : Option Int}
    {made : StoredBlock → Except Failure EpochBlock → Prop}
    {annotate : List StoredBlock → Explore (List EpochBlock)}
    (annotated : ∀ stored, ∃ result, (annotate stored).Yields result ∧
      Collects made stored result) :
    ∃ result,
      (do
        let rows ← Store.latestBlocks (some world.connection) count offset
        let blocks ← annotate rows
        return Latest.page blocks).Yields (result.map Latest.page) ∧
      Collects (fun row => row.ComesTo made) (world.tables.window count offset) result := by
  have listed := reliable.latest_blocks_yields count offset
  cases read : (world.tables.window count offset).mapM Store.readBlock with
  | error failure =>
      rw [read] at listed
      obtain ⟨row, member, unread⟩ := exists_of_map_m_eq_error read
      exact ⟨.error failure, listed.bind_error, .failed member (.unread unread)⟩
  | ok stored =>
      rw [read] at listed
      obtain ⟨result, yields, collects⟩ := annotated stored
      refine ⟨result, listed.bind_ok (yields.bind_map fun _ => yields_pure _), ?_⟩
      refine (collects.behind (map_m_eq_ok_iff.mp read)).mono ?_
      rintro row found ⟨block, readBlock, comes⟩
      exact .read readBlock comes

theorem annotate_by_agrees (reliable : world.Reliable) (checksums : Checksums)
    (inner : StoredBlock → TaskOrders) (row : StoredBlock) :
    ∃ found, ((world.sources checksums).annotateBy inner row).Yields found ∧
      Agree (world.epochBlock checksums row) found := by
  obtain ⟨block, assembled, agree⟩ :=
    Sources.assemble_by_agrees reliable checksums (inner row) row
  refine ⟨_, assembled.bind fun block _ =>
    (world.node.epoch_yields block.header.height).bind_map fun _ => yields_pure _, ?_⟩
  exact agree.bind fun _ => Agree.refl _

/-- In whatever orders a page is done, each of its rows comes to what its block comes to alone. -/
theorem page_by_collects (reliable : world.Reliable) (checksums : Checksums) (outer : TaskOrders)
    (inner : StoredBlock → TaskOrders) {count : Int} {offset : Option Int} (counted : 0 ≤ count)
    (shifted : 0 ≤ offset.getD 0) :
    ∃ result, ((world.sources checksums).pageBy outer inner count offset).Yields
        (result.map Latest.page) ∧
      Collects (fun row => row.ComesTo fun stored found =>
          ((world.sources checksums).annotateBy inner stored).Yields found ∧
            Agree (world.epochBlock checksums stored) found)
        (world.tables.window count offset) result := by
  rw [Sources.pageBy, if_neg (by omega), if_neg (by omega)]
  apply page_collects reliable
  intro stored
  choose found yields agrees using annotate_by_agrees reliable checksums inner
  obtain ⟨result, gathered, collects⟩ := gather_collects yields (outer stored.length).complete
  refine ⟨result, gathered, collects.mono ?_⟩
  rintro row _ rfl
  exact ⟨yields row, agrees row⟩

theorem agree_of_comes_to {row : Row} {found : Except Failure EpochBlock}
    {made : StoredBlock → Except Failure EpochBlock → Prop}
    (comes : row.ComesTo (fun stored result => made stored result ∧
      Agree (world.epochBlock checksums stored) result) found) :
    Agree (world.showing checksums row) found := by
  rw [showing_eq_bind]
  cases comes with
  | unread fault =>
      rw [fault]
      exact Agree.refl _
  | read known does =>
      rw [known]
      exact does.2

theorem shows_page_of_all (reliable : world.Reliable) (integral : world.tables.Integral)
    {count : Int} {offset : Option Int} {blocks : List EpochBlock}
    (each : List.Forall₂ (fun row annotated => world.showing checksums row = .ok annotated)
      (world.tables.window count offset) blocks) {before after : Session}
    (requests : ∃ sent, after.epochRequests = before.epochRequests ++ sent ∧
      (sent.map fun request => request.height.val).Perm (blocks.map EpochBlock.height)) :
    world.ShowsPage checksums (world.tables.window count offset) before after blocks := by
  have heights : blocks.map EpochBlock.height =
      (world.tables.window count offset).map Row.height := by
    refine map_eq_of_forall₂ each fun row member annotated found => ?_
    exact height_of_showing integral (Tables.mem_blocks_of_mem_window member) found
  have falling : (blocks.map EpochBlock.height).Pairwise fun first second => second ≤ first := by
    rw [heights, List.pairwise_map]
    exact Tables.window_falling
  exact {
    each := each.imp fun row annotated found => (shows_iff reliable).mpr found
    heights := heights
    falling := List.pairwise_map.mp falling
    requests := requests }

theorem refused_for_row (reliable : world.Reliable) (complete : world.tables.Complete)
    (integral : world.tables.Integral) (listed : row ∈ world.tables.blocks) {failure : Failure}
    (fault : Agree (world.showing checksums row) (.error failure)) :
    (¬∃ annotated, world.Shows checksums row annotated) ∧
      ((∃ table fields, failure = .store (.malformedRow table fields)) ∨
        ∃ height, row.height? = some height ∧
          (world.node.epoch height).Yields (.error failure)) := by
  obtain ⟨other, failed, same⟩ := fault.eq_error
  constructor
  · rintro ⟨annotated, shown⟩
    rw [(shows_iff reliable).mp shown] at failed
    cases failed
  · rcases same with rfl | malformed
    · exact showing_error complete integral listed failed
    · exact .inl malformed

theorem serves_collected (reliable : world.Reliable) (complete : world.tables.Complete)
    (integral : world.tables.Integral) {count : Int} {offset : Option Int} (counted : 0 ≤ count)
    (shifted : 0 ≤ offset.getD 0) {run : Explore Latest} {result : Except Failure (List EpochBlock)}
    (yields : run.Yields (result.map Latest.page))
    (collects : Collects (fun row found => Agree (world.showing checksums row) found)
      (world.tables.window count offset) result)
    (asks : run.Requests Latest.heights) (session : Session)
    (nothing : world.tables.window count offset = [] → run.outcome session =
      (.ok (.page []), session.record (.query (.blockPage count (offset.getD 0))))) :
    world.ServesPage checksums (world.tables.window count offset) count offset session
      (run.outcome session) := by
  have outcome := yields session
  cases collects with
  | @all blocks each =>
      have page := shows_page_of_all reliable integral (each.imp fun _ _ agree => agree.eq_ok)
        (asks session (.page blocks) _ (Prod.ext outcome rfl))
      refine ⟨⟨fun _ row member => ?_, fun _ => ⟨_, outcome⟩⟩, ?_, ?_, nothing⟩
      · obtain ⟨annotated, _, shown⟩ := exists_origin page.each.flip member
        exact ⟨annotated, shown⟩
      · intro latest found
        rw [outcome] at found
        cases found
        refine ⟨blocks, rfl, ?_, page⟩
        rw [← page.each.length_eq, Tables.length_window]
        omega
      · intro failure found
        rw [outcome] at found
        cases found
  | @failed row failure member fault =>
      have refused := refused_for_row reliable complete integral
        (Tables.mem_blocks_of_mem_window member) fault
      refine ⟨⟨?_, fun all => absurd (all row member) refused.1⟩, ?_, ?_, nothing⟩
      · rintro ⟨latest, found⟩
        rw [outcome] at found
        cases found
      · intro latest found
        rw [outcome] at found
        cases found
      · intro again found
        rw [outcome] at found
        cases found
        exact ⟨row, member, refused⟩

/-- Where no row is asked for, the rows are all that is asked for. -/
theorem outcome_empty_window (reliable : world.Reliable) (outer : TaskOrders)
    (inner : StoredBlock → TaskOrders) {count : Int} {offset : Option Int} (counted : 0 ≤ count)
    (shifted : 0 ≤ offset.getD 0) (window : world.tables.window count offset = [])
    (session : Session) :
    ((world.sources checksums).pageBy outer inner count offset).outcome session =
      (.ok (.page []), session.record (.query (.blockPage count (offset.getD 0)))) := by
  have answered : world.reply (.blockPage count (offset.getD 0)) = .ok [] := by
    rw [reliable.reply_eq rfl]
    exact congrArg Except.ok window
  have connected : (world.sources checksums).connection = some world.connection := rfl
  rw [Sources.pageBy, if_neg (by omega), if_neg (by omega)]
  simp only [connected, Store.latestBlocks, outcome_bind, Store.outcome_ask_some, reply_connection,
    answered, is_acquired_connection, if_true, Except.mapError, Store.readAll, outcome_of_except,
    gather_nil, outcome_pure]

end World

/-- A request for `count` of the latest blocks behind the first `offset` shows the rows at these
places of the descending order, each as its block with the epoch of its height, if all of them can
be shown; otherwise it fails for one that cannot. Of an empty window nothing but the rows is asked.
It makes no difference how many blocks are under way at a time, nor in which order they are done. -/
theorem latest_page_serves_window (world : World) (checksums : Checksums) (session : Session)
    (count : Int) (offset : Option Int) (reliable : world.Reliable)
    (complete : world.tables.Complete) (integral : world.tables.Integral) (counted : 0 ≤ count)
    (shifted : ∀ start ∈ offset, 0 ≤ start) :
    let sources := world.sources checksums
    ∃ sorted, Tables.Descending world.tables.blocks sorted ∧
      let rows := (sorted.drop (offset.getD 0).toNat).take count.toNat
      world.ServesPage checksums rows count offset session
          ((sources.latest (some count) offset).outcome session) ∧
        ∀ (fanout : Nat) (schedule : Schedule fanout),
          world.ServesPage checksums rows count offset session
            ((sources.pageInTurns schedule count offset).outcome session) := by
  intro sources
  have start : 0 ≤ offset.getD 0 := Tables.start_nonneg shifted
  have inTurns : ∀ (fanout : Nat) (schedule : Schedule fanout),
      world.ServesPage checksums (world.tables.window count offset) count offset session
        ((sources.pageInTurns schedule count offset).outcome session) := by
    intro fanout schedule
    have asks := sources.page_in_turns_requests schedule counted start
    obtain ⟨result, yields, collects⟩ := World.page_by_collects reliable checksums
      schedule.orders (fun _ => schedule.orders) counted start
    have agreeing := collects.mono fun row found => World.agree_of_comes_to
    exact World.serves_collected reliable complete integral counted start yields agreeing asks
      session fun window => World.outcome_empty_window reliable _ _ counted start window session
  -- One by one is a schedule like any other.
  have inOrder := inTurns 1 (Schedule.inOrder Nat.one_pos)
  rw [Sources.page_in_order] at inOrder
  exact ⟨_, Tables.by_height_descending world.tables.blocks, inOrder, inTurns⟩

namespace SmallStore

theorem integral : tables.Integral := by
  intro row member
  simp only [tables, List.mem_cons, List.not_mem_nil, or_false] at member
  rcases member with rfl | rfl | rfl
  · exact ⟨5, rfl⟩
  · exact ⟨9, rfl⟩
  · exact ⟨7, rfl⟩

theorem epoch_of_node {height : Int} (short : Numeral.isWritable height)
    (early : height.toNat / 4 < Epoch.limit) :
    world.node.epochOf height = .ok (height.toNat / 4) := by
  rw [world.node.epoch_of_val ⟨height, short⟩]
  exact NodeReply.epoch_of_of_epoch early _

def thirdBlock : Block where
  blockId := [3]
  header := header 7
  lastCommit := none
  transactions := []

theorem one_shifted : ∀ start ∈ some (1 : Int), 0 ≤ start := by
  intro start same
  cases same
  decide

theorem page_found : ((world.sources checksums).latest (some 2) (some 1)).Yields
    (.ok (.page [⟨thirdBlock, 1⟩, ⟨firstBlock, 1⟩])) := by
  have seventh : world.node.epochOf 7 = .ok 1 := epoch_of_node (by decide) (by decide)
  have fifth : world.node.epochOf 5 = .ok 1 := epoch_of_node (by decide) (by decide)
  have third : world.withEpoch thirdBlock = .ok ⟨thirdBlock, 1⟩ :=
    World.with_epoch_eq_ok_iff.mpr ⟨rfl, seventh⟩
  have first : world.withEpoch firstBlock = .ok ⟨firstBlock, 1⟩ :=
    World.with_epoch_eq_ok_iff.mpr ⟨rfl, fifth⟩
  have page : world.pageOf checksums (world.tables.window 2 (some 1)) =
      .ok (.page [⟨thirdBlock, 1⟩, ⟨firstBlock, 1⟩]) := by
    have read : (world.tables.window 2 (some 1)).mapM Store.readBlock =
        .ok [⟨[3], header 7, none⟩, ⟨[1], header 5, none⟩] := rfl
    have shown : [⟨[3], header 7, none⟩, ⟨[1], header 5, none⟩].mapM
        (world.epochBlock checksums) = .ok [⟨thirdBlock, 1⟩, ⟨firstBlock, 1⟩] :=
      map_m_eq_ok_iff.mpr (.cons (bind_eq_ok_iff.mpr ⟨thirdBlock, rfl, third⟩)
        (.cons (bind_eq_ok_iff.mpr ⟨firstBlock, rfl, first⟩) .nil))
    rw [World.pageOf, read]
    exact congrArg (Except.map Latest.page) shown
  rw [← page]
  exact Sources.page_yields reliable checksums (by decide) one_shifted

end SmallStore

/-- The second and the third block of three, with the two requests that they take. -/
theorem latest_page_serves_window_small_store :
    SmallStore.world.Reliable ∧ SmallStore.tables.Complete ∧ SmallStore.tables.Integral ∧
      (0 : Int) ≤ 2 ∧ (∀ start ∈ some (1 : Int), 0 ≤ start) ∧
      ∃ after sent, (((SmallStore.world.sources SmallStore.checksums).latest (some 2)
          (some 1)).outcome Session.start) =
          (.ok (.page [⟨SmallStore.thirdBlock, 1⟩, ⟨SmallStore.firstBlock, 1⟩]), after) ∧
        after.epochRequests = sent ∧ (sent.map fun request => request.height.val).Perm [7, 5] := by
  obtain ⟨sorted, _, serves, _⟩ := latest_page_serves_window SmallStore.world
    SmallStore.checksums Session.start 2 (some 1) SmallStore.reliable SmallStore.complete
    SmallStore.integral (by decide) SmallStore.one_shifted
  have found := SmallStore.page_found Session.start
  obtain ⟨blocks, same, _, page⟩ := serves.shown _ found
  cases same
  obtain ⟨sent, asked, heights⟩ := page.requests
  exact ⟨SmallStore.reliable, SmallStore.complete, SmallStore.integral, by decide,
    SmallStore.one_shifted, _, sent, Prod.ext found rfl, asked, heights⟩

end BlockExplorer
