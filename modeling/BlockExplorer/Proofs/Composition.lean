import BlockExplorer.Lookup.Interleaving

/-!
Properties that runs keep when they are put together. A property that holds where nothing is done
and of one run behind another holds of every block that is put together from the store, if it holds
of the questions to the store. What is done in turns is nothing else than one task behind another.
-/

namespace BlockExplorer

namespace Explore

/-- The property holds where nothing is done, and of one run behind another if it does of both. -/
structure Composable (holds : (α : Type) → Explore α → Prop) : Prop where
  idle : ∀ (α : Type) (content : α), holds α (pure content)
  behind : ∀ (α β : Type) (run : Explore α) (next : α → Explore β), holds α run →
    (∀ content, holds β (next content)) → holds β (run >>= next)

namespace Composable

variable {holds : (α : Type) → Explore α → Prop} (composable : Composable holds) {α β : Type}

include composable

theorem map {run : Explore α} (first : holds α run) (f : α → β) : holds β (f <$> run) := by
  rw [map_eq_pure_bind]
  exact composable.behind _ _ _ _ first fun _ => composable.idle _ _

theorem run_placed {task : α → Explore β} (each : ∀ item, holds β (task item))
    (entries : List (Nat × α)) : holds (List (Nat × β)) (Explore.runPlaced task entries) := by
  induction entries with
  | nil => exact composable.idle _ _
  | cons entry rest induction =>
      obtain ⟨place, item⟩ := entry
      rw [Explore.runPlaced]
      apply composable.behind _ _ _ _ (each item)
      intro first
      exact composable.behind _ _ _ _ induction fun _ => composable.idle _ _

theorem gather {task : α → Explore β} (each : ∀ item, holds β (task item)) (order : List Nat)
    (items : List α) : holds (List β) (Explore.gather task order items) := by
  rw [Explore.gather]
  apply composable.behind _ _ _ _ (composable.run_placed each _)
  intro results
  exact composable.idle _ _

theorem one_by_one {task : α → Explore β} (each : ∀ item, holds β (task item)) (items : List α) :
    holds (List β) (Explore.oneByOne task items) := by
  induction items with
  | nil => exact composable.idle _ _
  | cons item rest induction =>
      apply composable.behind _ _ _ _ (each item)
      intro first
      exact composable.behind _ _ _ _ induction fun _ => composable.idle _ _

theorem step_at {step : α → Explore α} (each : ∀ item, holds α (step item)) (place : Nat)
    (items : List α) : holds (List α) (Explore.stepAt step place items) := by
  induction items generalizing place with
  | nil =>
      rw [Explore.stepAt]
      exact composable.idle _ _
  | cons item rest induction =>
      cases place with
      | zero => exact composable.behind _ _ _ _ (each item) fun _ => composable.idle _ _
      | succ place =>
          exact composable.behind _ _ _ _ (induction place) fun _ => composable.idle _ _

end Composable

end Explore

namespace Sources

open Explore

structure HoldsOfParts (holds : (α : Type) → Explore α → Prop) (sources : Sources) : Prop where
  count : holds Unit countDecodeFailure
  entries : ∀ blockId, holds (List IndexEntry) (Store.txHashEntries sources.connection blockId)
  record : ∀ hash, holds (Option StoredTx) (Store.txRecord sources.connection hash)

namespace HoldsOfParts

variable {holds : (α : Type) → Explore α → Prop} {sources : Sources} {fanout : Nat}
  (composable : Composable holds) (parts : HoldsOfParts holds sources)

include composable parts

theorem label (record : StoredTx) : holds Text (sources.label record) := by
  rw [Sources.label]
  cases record.decode sources.checksums with
  | ok decoded => exact composable.idle _ _
  | error fault =>
      apply composable.behind _ _ _ _ parts.count
      intro counted
      exact composable.idle _ _

theorem classify (entry : IndexEntry) :
    holds (Option LabelledTx) (sources.classify entry) := by
  unfold Sources.classify
  cases entry.kind with
  | wrapper => exact composable.idle _ _
  | decrypted =>
      apply composable.behind _ _ _ _ (parts.record entry.hash)
      intro record
      cases record with
      | none => exact composable.idle _ _
      | some record =>
          apply composable.behind _ _ _ _ (parts.label composable record)
          intro label
          exact composable.idle _ _

theorem assemble_in_turns (schedule : Schedule fanout) (row : StoredBlock) :
    holds Block (sources.assembleInTurns schedule row) := by
  apply composable.behind _ _ _ _ (parts.entries row.blockId)
  intro entries
  apply composable.behind _ _ _ _ (composable.gather (parts.classify composable) _ _)
  intro summaries
  exact composable.idle _ _

theorem assemble_some_in_turns (schedule : Schedule fanout) (row : Option StoredBlock) :
    holds (Option Block) (sources.assembleSomeInTurns schedule row) := by
  cases row with
  | none => exact composable.idle _ _
  | some row => exact composable.map (parts.assemble_in_turns composable schedule row) some

/-- What is found is put together if there is anything. -/
theorem assemble_found (schedule : Schedule fanout) {search : Explore (Option StoredBlock)}
    (found : holds (Option StoredBlock) search) :
    holds (Option Block) (search >>= sources.assembleSomeInTurns schedule) :=
  composable.behind _ _ _ _ found (parts.assemble_some_in_turns composable schedule)

theorem settle (slot : Slot) : holds Slot (sources.settle slot) := by
  cases slot with
  | waiting entry => exact composable.map (parts.classify composable entry) _
  | settled summary => exact composable.idle _ _

theorem summary (slot : Slot) : holds (Option LabelledTx) (sources.summary slot) := by
  cases slot with
  | waiting entry => exact parts.classify composable entry
  | settled summary => exact composable.idle _ _

theorem classify_all (entries : List IndexEntry) :
    holds (List (Option LabelledTx)) (sources.classifyAll entries) := by
  induction entries with
  | nil => exact composable.idle _ _
  | cons entry rest induction =>
      apply composable.behind _ _ _ _ (parts.classify composable entry)
      intro first
      exact composable.behind _ _ _ _ induction fun _ => composable.idle _ _

theorem assemble (row : StoredBlock) : holds Block (sources.assemble row) := by
  apply composable.behind _ _ _ _ (parts.entries row.blockId)
  intro entries
  exact composable.behind _ _ _ _ (parts.classify_all composable entries) fun _ =>
    composable.idle _ _

section Epochs

variable (epoch : ∀ height, holds Nat (sources.node.epoch height))

include epoch

theorem annotate_in_turns (schedule : Schedule fanout) (row : StoredBlock) :
    holds EpochBlock (sources.annotateInTurns schedule row) := by
  apply composable.behind _ _ _ _ (parts.assemble_in_turns composable schedule row)
  intro block
  apply composable.behind _ _ _ _ (epoch block.header.height)
  intro epoch
  exact composable.idle _ _

theorem annotate (row : StoredBlock) : holds EpochBlock (sources.annotate row) := by
  apply composable.behind _ _ _ _ (parts.assemble composable row)
  intro block
  exact composable.behind _ _ _ _ (epoch block.header.height) fun _ => composable.idle _ _

theorem advance (slot : Nat) (block : Progress) :
    holds Progress (sources.advance slot block) := by
  cases block with
  | waiting row => exact composable.behind _ _ _ _ (parts.entries _) fun _ => composable.idle _ _
  | classifying row slots =>
      rw [Sources.advance]
      split
      · apply composable.map
        exact composable.behind _ _ _ _ (epoch _) fun _ => composable.idle _ _
      · exact composable.map (composable.step_at (parts.settle composable) slot slots) _
  | annotated block => exact composable.idle _ _

theorem finish (block : Progress) : holds EpochBlock (sources.finish block) := by
  cases block with
  | waiting row => exact parts.annotate composable epoch row
  | classifying row slots =>
      apply composable.behind _ _ _ _ (composable.one_by_one (parts.summary composable) slots)
      intro summaries
      exact composable.behind _ _ _ _ (epoch _) fun _ => composable.idle _ _
  | annotated block => exact composable.idle _ _

theorem page_in_turns (schedule : Schedule fanout) {search : Explore (List StoredBlock)}
    (found : holds (List StoredBlock) search) :
    holds Latest (do
      let rows ← search
      let blocks ← Explore.gather (sources.annotateInTurns schedule)
        (schedule rows.length).order rows
      return .page blocks) := by
  apply composable.behind _ _ _ _ found
  intro rows
  have each := parts.annotate_in_turns composable epoch schedule
  exact composable.behind _ _ _ _ (composable.gather each _ rows) fun _ => composable.idle _ _

theorem last_in_turns (schedule : Schedule fanout)
    (found : holds StoredBlock (Store.latestBlock sources.connection)) :
    holds Latest (sources.lastInTurns schedule) := by
  apply composable.behind _ _ _ _ found
  intro row
  exact composable.behind _ _ _ _ (parts.annotate_in_turns composable epoch schedule row) fun _ =>
    composable.idle _ _

end Epochs

end HoldsOfParts

structure HoldsOfSteps (holds : (α : Type) → Explore α → Prop) (sources : Sources) : Prop where
  failed : ∀ (α : Type) (failure : Failure), holds α (fail failure)
  count : holds Unit countDecodeFailure
  asked : ∀ query, holds (List Row) (Store.ask sources.connection query)
  epoch : ∀ height, holds Nat (sources.node.epoch height)

namespace HoldsOfSteps

variable {holds : (α : Type) → Explore α → Prop} {sources : Sources} {fanout : Nat} {α β : Type}
  (composable : Composable holds) (steps : HoldsOfSteps holds sources)

include steps

theorem guarded {refused : Prop} [Decidable refused] {failure : Failure} {run : Explore α}
    (accepted : holds α run) : holds α (if refused then Explore.fail failure else run) := by
  split
  · exact steps.failed α failure
  · exact accepted

include composable

theorem of_except (result : Except Failure α) : holds α (Explore.ofExcept result) := by
  cases result with
  | ok content => exact composable.idle _ _
  | error failure => exact steps.failed _ failure

/-- A query, and what its rows are read as. -/
theorem fetched (query : Query) (read : List Row → Except Failure α) :
    holds α (Store.ask sources.connection query >>= fun rows => Explore.ofExcept (read rows)) :=
  composable.behind _ _ _ _ (steps.asked query) fun _ => steps.of_except composable _

theorem asked_one (query : Query) : holds (Option Row) (Store.askOne sources.connection query) :=
  composable.behind _ _ _ _ (steps.asked query) fun _ => composable.idle _ _

theorem fetched_one (query : Query) (read : Option Row → Except Failure α) :
    holds α (Store.askOne sources.connection query >>= fun row => Explore.ofExcept (read row)) :=
  composable.behind _ _ _ _ (steps.asked_one composable query) fun _ => steps.of_except composable _

theorem parts : HoldsOfParts holds sources where
  count := steps.count
  entries blockId := steps.fetched composable (.txHashes blockId) _
  record hash := steps.fetched_one composable (.transaction hash) _

theorem latest_block : holds StoredBlock (Store.latestBlock sources.connection) := by
  apply composable.behind _ _ _ _ (steps.asked_one composable .latestBlock)
  intro row
  cases row with
  | none => exact steps.failed _ _
  | some row => exact steps.of_except composable _

theorem annotate_in_turns (schedule : Schedule fanout) (row : StoredBlock) :
    holds EpochBlock (sources.annotateInTurns schedule row) :=
  (steps.parts composable).annotate_in_turns composable steps.epoch schedule row

theorem by_height_in_turns (schedule : Schedule fanout) (height : Int) :
    holds (Option Block) (sources.byHeightInTurns schedule height) :=
  steps.guarded <| steps.guarded <| (steps.parts composable).assemble_found composable schedule
    (steps.fetched_one composable (.blockByHeight height) _)

theorem page_in_turns (schedule : Schedule fanout) (count : Int) (offset : Option Int) :
    holds Latest (sources.pageInTurns schedule count offset) := by
  refine steps.guarded (steps.guarded ?_)
  exact (steps.parts composable).page_in_turns composable steps.epoch schedule
    (steps.fetched composable (.blockPage count (offset.getD 0)) _)

/-- The property holds of every lookup. -/
theorem look_in_turns (schedule : Schedule fanout) (lookup : Lookup) :
    holds Found (sources.lookInTurns schedule lookup) := by
  have byHash (hash : Bytes) : holds (Option Block) (sources.byHashInTurns schedule hash) :=
    (steps.parts composable).assemble_found composable schedule
      (steps.fetched_one composable (.blockByHash hash) _)
  cases lookup with
  | byHash hash => exact composable.map (byHash hash) _
  | byHashText text =>
      rw [Sources.lookInTurns]
      cases BlockHash.parse text with
      | error fault => exact steps.failed _ _
      | ok hash => exact composable.map (byHash hash) _
  | byHeight height => exact composable.map (steps.by_height_in_turns composable schedule height) _
  | byId id => exact composable.map (byHash id) _
  | latest count offset =>
      cases count with
      | some count => exact composable.map (steps.page_in_turns composable schedule count offset) _
      | none =>
          apply composable.map
          exact (steps.parts composable).last_in_turns composable steps.epoch schedule
            (steps.latest_block composable)

end HoldsOfSteps

end Sources

end BlockExplorer
