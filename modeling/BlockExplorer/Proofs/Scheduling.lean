import BlockExplorer.Proofs.Orders

/-!
Scheduling cannot be seen. Whatever the order in which the parts of a lookup are done, and however
the blocks of a page go side by side, the lookup finds the same, counts the same and asks for the
same as often; and where one order fails, every order does.
-/

namespace BlockExplorer

namespace Sources

open Explore

variable (sources : Sources) {fanout : Nat}

theorem classify_uniform (entry : IndexEntry) : (sources.classify entry).Uniform :=
  (sources.steps_uniform.parts uniform_composable).classify uniform_composable entry

theorem entries_uniform (blockId : Bytes) :
    (Store.txHashEntries sources.connection blockId).Uniform :=
  (sources.steps_uniform.parts uniform_composable).entries blockId

theorem assemble_by_uniform (orders : TaskOrders) (row : StoredBlock) :
    (sources.assembleBy orders row).Uniform := by
  apply (sources.entries_uniform row.blockId).bind
  intro entries
  apply (uniform_composable.gather sources.classify_uniform _ entries).bind
  intro summaries
  exact uniform_pure _

theorem annotate_by_uniform (inner : StoredBlock → TaskOrders) (row : StoredBlock) :
    (sources.annotateBy inner row).Uniform := by
  apply (sources.assemble_by_uniform _ row).bind
  intro block
  exact (sources.node.epoch_uniform _).bind fun _ => uniform_pure _

theorem classify_all_eq (entries : List IndexEntry) :
    oneByOne sources.classify entries = sources.classifyAll entries :=
  one_by_one_eq sources.classifyAll rfl (fun _ _ => rfl) entries

theorem annotate_all_eq (rows : List StoredBlock) :
    oneByOne sources.annotate rows = sources.annotateAll rows :=
  one_by_one_eq sources.annotateAll rfl (fun _ _ => rfl) rows

theorem assemble_by_alike (orders : TaskOrders) (row : StoredBlock) :
    (sources.assembleBy orders row).SeenAlike (sources.assemble row) := by
  refine .bind_right fun entries => ?_
  have gathered := gather_alike_one_by_one sources.classify_uniform (orders entries.length).complete
  rw [classify_all_eq] at gathered
  exact gathered.bind_left fun _ => uniform_pure _

/-- Putting a block together fails if its index cannot be read, and otherwise exactly if the
classification of one of its entries fails. -/
theorem assemble_by_fails_iff (orders : TaskOrders) (row : StoredBlock) :
    (sources.assembleBy orders row).Fails ↔
      (Store.txHashEntries sources.connection row.blockId).Fails ∨
        ∃ entries, (Store.txHashEntries sources.connection row.blockId).Finds entries ∧
          ∃ entry ∈ entries, (sources.classify entry).Fails := by
  have gathered (entries : List IndexEntry) := uniform_composable.gather sources.classify_uniform
    (orders entries.length).places entries
  rw [assembleBy, fails_bind_iff (sources.entries_uniform row.blockId) fun entries =>
    (gathered entries).bind fun _ => uniform_pure _]
  simp only [fails_bind_pure_iff (gathered _),
    gather_fails_iff sources.classify_uniform (orders _).complete]

theorem annotate_by_alike (inner : StoredBlock → TaskOrders) (row : StoredBlock) :
    (sources.annotateBy inner row).SeenAlike (sources.annotate row) := by
  refine (sources.assemble_by_alike (inner row) row).bind_left fun block => ?_
  exact (sources.node.epoch_uniform _).bind fun _ => uniform_pure _

theorem classify_order_unseen : OrderUnseen sources.classify sources.classifyAll :=
  order_unseen sources.classify_uniform fun entries => by
    rw [classify_all_eq]
    exact .refl _

theorem annotate_order_unseen (inner : StoredBlock → TaskOrders) :
    OrderUnseen (sources.annotateBy inner) sources.annotateAll :=
  order_unseen (sources.annotate_by_uniform inner) fun rows => by
    rw [← annotate_all_eq]
    exact one_by_one_alike (sources.annotate_by_uniform inner) (sources.annotate_by_alike inner)
      rows

theorem page_by_alike (outer : TaskOrders) (inner : StoredBlock → TaskOrders) (count : Int)
    (offset : Option Int) :
    (sources.pageBy outer inner count offset).SeenAlike (sources.latest (some count) offset) := by
  refine .behind_guard (.behind_guard (.bind_right fun rows => ?_))
  have annotated := (sources.annotate_order_unseen inner).alike rows (outer rows.length)
  exact annotated.bind_left fun _ => uniform_pure _

theorem assemble_in_turns_alike (schedule : Schedule fanout) (row : StoredBlock) :
    (sources.assembleInTurns schedule row).SeenAlike (sources.assemble row) :=
  sources.assemble_by_alike schedule.orders row

theorem assemble_found_alike (schedule : Schedule fanout) (search : Explore (Option StoredBlock)) :
    (search >>= sources.assembleSomeInTurns schedule).SeenAlike
      (search >>= sources.assembleSome) := by
  refine .bind_right fun row => ?_
  cases row with
  | none => exact .refl _
  | some row => exact (sources.assemble_in_turns_alike schedule row).map some

theorem look_in_turns_alike (schedule : Schedule fanout) (lookup : Lookup) :
    (sources.lookInTurns schedule lookup).SeenAlike (sources.look lookup) := by
  cases lookup with
  | byHash hash => exact (sources.assemble_found_alike schedule _).map _
  | byHashText text =>
      rw [lookInTurns, look, byHashText]
      cases BlockHash.parse text with
      | error fault => exact .refl _
      | ok hash => exact (sources.assemble_found_alike schedule _).map _
  | byHeight height =>
      have found := sources.assemble_found_alike schedule
        (Store.blockByHeight sources.connection height)
      exact found.behind_guard.behind_guard.map _
  | byId id => exact (sources.assemble_found_alike schedule _).map _
  | latest count offset =>
      cases count with
      | some count =>
          have paged := sources.page_by_alike schedule.orders (fun _ => schedule.orders) count
            offset
          exact paged.map _
      | none =>
          refine SeenAlike.map ?_ _
          refine .bind_right fun row => ?_
          exact (sources.annotate_by_alike (fun _ => schedule.orders) row).bind_left fun _ =>
            uniform_pure _

theorem settle_uniform (slot : Slot) : (sources.settle slot).Uniform :=
  (sources.steps_uniform.parts uniform_composable).settle uniform_composable slot

theorem summary_uniform (slot : Slot) : (sources.summary slot).Uniform :=
  (sources.steps_uniform.parts uniform_composable).summary uniform_composable slot

theorem assemble_uniform (row : StoredBlock) : (sources.assemble row).Uniform :=
  (sources.steps_uniform.parts uniform_composable).assemble uniform_composable row

theorem complete_uniform (row : StoredBlock) (summaries : List (Option LabelledTx)) :
    (sources.complete row summaries).Uniform :=
  (sources.node.epoch_uniform _).bind fun _ => uniform_pure _

theorem annotate_uniform (row : StoredBlock) : (sources.annotate row).Uniform :=
  (sources.steps_uniform.parts uniform_composable).annotate uniform_composable
    sources.node.epoch_uniform row

theorem annotate_all_uniform (rows : List StoredBlock) : (sources.annotateAll rows).Uniform := by
  rw [← sources.annotate_all_eq]
  exact uniform_composable.one_by_one sources.annotate_uniform rows

theorem advance_uniform (slot : Nat) (block : Progress) : (sources.advance slot block).Uniform :=
  (sources.steps_uniform.parts uniform_composable).advance uniform_composable
    sources.node.epoch_uniform slot block

theorem finish_uniform (block : Progress) : (sources.finish block).Uniform :=
  (sources.steps_uniform.parts uniform_composable).finish uniform_composable
    sources.node.epoch_uniform block

theorem summary_behind_settle (slot : Slot) :
    sources.settle slot >>= sources.summary = sources.summary slot := by
  cases slot with
  | waiting entry => simp only [settle, summary, map_eq_pure_bind, bind_assoc, pure_bind, bind_pure]
  | settled found => simp only [settle, summary, pure_bind]

theorem summaries_of_waiting (entries : List IndexEntry) :
    oneByOne sources.summary (entries.map .waiting) = sources.classifyAll entries := by
  induction entries with
  | nil => rfl
  | cons entry rest induction =>
      rw [List.map_cons, oneByOne, induction]
      rfl

theorem summaries_of_settled {slots : List Slot} {summaries : List (Option LabelledTx)}
    (settled : slots.mapM Slot.settled? = some summaries) :
    oneByOne sources.summary slots = pure summaries := by
  induction slots generalizing summaries with
  | nil =>
      cases settled
      rfl
  | cons slot rest induction =>
      rw [List.mapM_cons] at settled
      obtain ⟨first, head, others⟩ := Option.bind_eq_some_iff.mp settled
      obtain ⟨shown, tail, done⟩ := Option.bind_eq_some_iff.mp others
      cases done
      cases slot with
      | waiting entry => cases head
      | settled found =>
          cases head
          rw [oneByOne, induction tail]
          rfl

theorem finish_of_waiting (row : StoredBlock) :
    sources.finish (.waiting row) =
      Store.txHashEntries sources.connection row.blockId >>= fun entries =>
        sources.finish (.classifying row (entries.map .waiting)) := by
  simp only [finish, annotate, assemble, complete, summaries_of_waiting, bind_assoc, pure_bind]

/-- A step leaves all that is to do behind it as it is. -/
theorem finish_alike_advance (slot : Nat) (block : Progress) :
    (sources.finish block).SeenAlike (sources.advance slot block >>= sources.finish) := by
  cases block with
  | waiting row =>
      rw [finish_of_waiting, advance, bind_assoc]
      simp only [pure_bind]
      exact .refl _
  | annotated block =>
      rw [advance, pure_bind]
      exact .refl _
  | classifying row slots =>
      rw [advance]
      split
      · next summaries settled =>
          rw [finish, sources.summaries_of_settled settled]
          simp only [map_eq_pure_bind, bind_assoc, pure_bind, finish, bind_pure]
          exact .refl _
      · simp only [map_eq_pure_bind, bind_assoc, pure_bind, finish]
        rw [← bind_assoc]
        refine SeenAlike.bind_left ?_ (sources.complete_uniform row)
        apply one_by_one_behind_step_at sources.settle_uniform sources.summary_uniform
        intro slot
        rw [summary_behind_settle]
        exact .refl _

theorem finish_alike_advance_all (turns : List (Nat × Nat)) (blocks : List Progress) :
    (oneByOne sources.finish blocks).SeenAlike
      (sources.advanceAll turns blocks >>= oneByOne sources.finish) := by
  induction turns generalizing blocks with
  | nil =>
      rw [advanceAll, pure_bind]
      exact .refl _
  | cons turn turns induction =>
      obtain ⟨place, slot⟩ := turn
      rw [advanceAll, bind_assoc]
      have stepped := one_by_one_behind_step_at (sources.advance_uniform slot)
        sources.finish_uniform (sources.finish_alike_advance slot) place blocks
      exact stepped.trans (.bind_right induction)

theorem finish_all_of_waiting (rows : List StoredBlock) :
    oneByOne sources.finish (rows.map .waiting) = sources.annotateAll rows := by
  induction rows with
  | nil => rfl
  | cons row rest induction =>
      rw [List.map_cons, oneByOne, induction]
      rfl

theorem page_side_by_side_alike (turns : List (Nat × Nat)) (count : Int) (offset : Option Int) :
    (sources.pageSideBySide turns count offset).SeenAlike
      (sources.latest (some count) offset) := by
  refine .behind_guard (.behind_guard (.bind_right fun rows => ?_))
  have shown := sources.finish_alike_advance_all turns (rows.map .waiting)
  rw [finish_all_of_waiting] at shown
  rw [← bind_assoc]
  exact shown.symm.bind_left fun _ => uniform_pure _

end Sources

/-- Scheduling cannot be seen. In every order in which the entries of a block are classified, the
same is found, with the same counts and as many reads of each record, as in index order; if one
classification fails, every order fails. The same holds of every order in which the blocks of a page
are done, whatever the order inside each of them is, of every way to let their steps alternate, and
of every number of places. -/
theorem scheduling_unseen (sources : Sources) :
    Explore.OrderUnseen sources.classify sources.classifyAll ∧
    (∀ orders row, (sources.assembleBy orders row).SeenAlike (sources.assemble row) ∧
      ((sources.assembleBy orders row).Fails ↔
        (Store.txHashEntries sources.connection row.blockId).Fails ∨
          ∃ entries, (Store.txHashEntries sources.connection row.blockId).Finds entries ∧
            ∃ entry ∈ entries, (sources.classify entry).Fails)) ∧
    (∀ inner, Explore.OrderUnseen (sources.annotateBy inner) sources.annotateAll) ∧
    (∀ outer inner count offset, (sources.pageBy outer inner count offset).SeenAlike
      (sources.latest (some count) offset)) ∧
    (∀ turns count offset, (sources.pageSideBySide turns count offset).SeenAlike
      (sources.latest (some count) offset)) ∧
    ∀ (fanout : Nat) (schedule : Schedule fanout) lookup,
      (sources.lookInTurns schedule lookup).SeenAlike (sources.look lookup) :=
  ⟨sources.classify_order_unseen,
    fun orders row =>
      ⟨sources.assemble_by_alike orders row, sources.assemble_by_fails_iff orders row⟩,
    sources.annotate_order_unseen, sources.page_by_alike, sources.page_side_by_side_alike,
    fun _ => sources.look_in_turns_alike⟩

end BlockExplorer
