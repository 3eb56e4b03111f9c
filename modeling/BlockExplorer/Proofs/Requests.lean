import BlockExplorer.Proofs.Composition
import BlockExplorer.Proofs.Turns

/-!
What the node is asked for. Looking for a block asks it nothing; a block with its epoch takes one
request, for the height of that block, in whatever order the blocks are done.
-/

namespace BlockExplorer

namespace Explore

variable {α β : Type}

/-- A run that succeeds has asked the node for the epochs of these heights and no others, each as
often as it is named. -/
def Requests (run : Explore α) (heights : α → List Int) : Prop :=
  ∀ session content after, run.outcome session = (.ok content, after) →
    ∃ sent, after.epochRequests = session.epochRequests ++ sent ∧
      (sent.map fun request => request.height.val).Perm (heights content)

theorem requests_pure (content : α) {heights : α → List Int} (quiet : heights content = []) :
    (pure content : Explore α).Requests heights := by
  intro session found after outcome
  rw [outcome_pure] at outcome
  cases outcome
  refine ⟨[], by rw [List.append_nil], ?_⟩
  rw [quiet]
  exact List.Perm.refl []

theorem Requests.behind {run : Explore α} {next : α → Explore β} {heights : β → List Int}
    (quiet : run.AsksNoNode) (asks : ∀ content, (next content).Requests heights) :
    (run >>= next).Requests heights := by
  intro session content after outcome
  obtain ⟨found, between, first, second⟩ := outcome_bind_eq_ok_iff.mp outcome
  have kept := quiet session
  rw [first] at kept
  obtain ⟨sent, grown, same⟩ := asks found between content after second
  exact ⟨sent, by rw [grown, kept.2], same⟩

theorem Requests.bind_pure {run : Explore α} {heights : α → List Int} {f : α → β}
    {told : β → List Int} (asks : run.Requests heights)
    (same : ∀ content, told (f content) = heights content) :
    (run >>= fun content => pure (f content)).Requests told := by
  intro session content after outcome
  obtain ⟨found, between, first, second⟩ := outcome_bind_eq_ok_iff.mp outcome
  rw [outcome_pure] at second
  cases second
  rw [same]
  exact asks session found after first

theorem Requests.cons {run : Explore α} {next : Explore (List β)} (item : α → β)
    (height : β → Int) (first : run.Requests fun content => [height (item content)])
    (rest : next.Requests fun contents => contents.map height) :
    (do
      let content ← run
      let others ← next
      return item content :: others).Requests fun contents => contents.map height := by
  intro session contents after outcome
  obtain ⟨content, between, head, tail⟩ := outcome_bind_eq_ok_iff.mp outcome
  obtain ⟨others, last, later, done⟩ := outcome_bind_eq_ok_iff.mp tail
  rw [outcome_pure] at done
  cases done
  obtain ⟨sent, grown, asked⟩ := first session content between head
  obtain ⟨more, grownMore, askedMore⟩ := rest between others after later
  refine ⟨sent ++ more, ?_, ?_⟩
  · rw [grownMore, grown, List.append_assoc]
  · rw [List.map_append]
    exact asked.append askedMore

theorem asks_no_node_composable : Composable fun _ run => run.AsksNoNode where
  idle _ content := asks_no_node_pure content
  behind _ _ _ _ first second := first.bind second

theorem run_placed_requests {task : α → Explore β} {height : β → Int}
    (each : ∀ item, (task item).Requests fun content => [height content])
    (entries : List (Nat × α)) :
    (runPlaced task entries).Requests fun results => results.map fun result => height result.2 := by
  induction entries with
  | nil => exact requests_pure [] rfl
  | cons entry rest induction =>
      obtain ⟨place, item⟩ := entry
      exact (each item).cons (Prod.mk place) (fun result => height result.2) induction

theorem run_placed_places {task : α → Explore β} {entries : List (Nat × α)}
    {session after : Session} {results : List (Nat × β)}
    (done : (runPlaced task entries).outcome session = (.ok results, after)) :
    results.map Prod.fst = entries.map Prod.fst := by
  induction entries generalizing session results with
  | nil =>
      cases done
      rfl
  | cons entry rest induction =>
      obtain ⟨place, item⟩ := entry
      obtain ⟨first, between, _, tail⟩ := outcome_bind_eq_ok_iff.mp done
      obtain ⟨others, last, later, finished⟩ := outcome_bind_eq_ok_iff.mp tail
      cases finished
      rw [List.map_cons, List.map_cons, induction later]

theorem map_fst_placed {order : List Nat} {items : List α}
    (bounded : ∀ place ∈ order, place < items.length) :
    (placed order items).map Prod.fst = order := by
  induction order with
  | nil => rfl
  | cons place rest induction =>
      have bound : place < items.length := bounded place (by simp)
      have later := induction fun other member => bounded other (List.mem_cons_of_mem place member)
      rw [placed_cons_of_lt bound, List.map_cons, later]

theorem filter_map_lookup {results : List (Nat × β)} (single : (results.map Prod.fst).Nodup) :
    (results.map Prod.fst).filterMap (fun place => results.lookup place) =
      results.map Prod.snd := by
  induction results with
  | nil => rfl
  | cons result rest induction =>
      obtain ⟨place, content⟩ := result
      obtain ⟨fresh, single⟩ := List.nodup_cons.mp single
      have head : ((place, content) :: rest).lookup place = some content := List.lookup_cons_self
      -- No later place is the first one, so the first result hides none of the others.
      have tail : (rest.map Prod.fst).filterMap (((place, content) :: rest).lookup ·) =
          (rest.map Prod.fst).filterMap (rest.lookup ·) := by
        apply List.filterMap_congr
        intro other member
        have different : other ≠ place := by
          intro same
          exact fresh (same ▸ member)
        rw [Dictionary.lookup_cons, if_neg different]
      rw [List.map_cons, List.map_cons, List.filterMap_cons, head, tail, induction single]

theorem arranged_perm {results : List (Nat × β)} {count : Nat}
    (complete : (results.map Prod.fst).Perm (List.range count)) :
    (arranged count results).Perm (results.map Prod.snd) := by
  have single : (results.map Prod.fst).Nodup := complete.nodup_iff.mpr List.nodup_range
  rw [← filter_map_lookup single, arranged]
  exact complete.symm.filterMap _

theorem gather_requests {task : α → Explore β} {height : β → Int}
    (each : ∀ item, (task item).Requests fun content => [height content]) {order : List Nat}
    {items : List α} (complete : order.Perm (List.range items.length)) :
    (gather task order items).Requests fun contents => contents.map height := by
  intro session contents after outcome
  obtain ⟨results, between, done, arrangement⟩ := outcome_bind_eq_ok_iff.mp outcome
  rw [outcome_pure] at arrangement
  cases arrangement
  have bounded : ∀ place ∈ order, place < items.length := by
    intro place member
    exact List.mem_range.mp (complete.mem_iff.mp member)
  have places : results.map Prod.fst = order := by
    rw [run_placed_places done, map_fst_placed bounded]
  have arrangedPerm : (arranged items.length results).Perm (results.map Prod.snd) := by
    apply arranged_perm
    rw [places]
    exact complete
  obtain ⟨sent, grown, asked⟩ := run_placed_requests each _ session results after done
  have same : (results.map Prod.snd).map height = results.map fun result => height result.2 :=
    List.map_map
  have rearranged := arrangedPerm.symm.map height
  rw [same] at rearranged
  exact ⟨sent, grown, asked.trans rearranged⟩

end Explore

theorem Exchange.sent_of_epoch {exchange : Exchange} {height : Numeral.Writable} {epoch : Nat}
    (found : exchange.epoch height = .ok epoch) : exchange.isSent = true := by
  cases exchange with
  | ok reply => rfl
  | error fault =>
      rw [Exchange.epoch] at found
      split at found <;> cases found

theorem Node.epoch_requests (node : Node) (height : Int) :
    (node.epoch height).Requests fun _ => [height] := by
  intro session epoch after outcome
  rcases Numeral.Writable.cases height with ⟨written, rfl⟩ | long
  · rw [outcome_epoch] at outcome
    obtain ⟨found, left⟩ := Prod.mk.inj outcome
    rw [Exchange.sent_of_epoch found] at left
    refine ⟨[⟨session.requests + 1, written⟩], ?_, List.Perm.refl _⟩
    rw [← left]
    simp [Session.epochRequests]
  · rw [outcome_epoch_of_long node long] at outcome
    cases outcome

def EpochBlock.height (annotated : EpochBlock) : Int := annotated.block.header.height

def Latest.heights : Latest → List Int
  | .last block => [block.height]
  | .page blocks => blocks.map EpochBlock.height

namespace Sources

open Explore

theorem parts_ask_no_node (sources : Sources) :
    HoldsOfParts (fun _ run => run.AsksNoNode) sources where
  count := asks_no_node_count_decode_failure
  entries _ := (Store.ask_asks_no_node _ _).bind fun _ => asks_no_node_of_except _
  record _ := (Store.ask_one_asks_no_node _ _).bind fun _ => asks_no_node_of_except _

theorem assemble_in_turns_asks_no_node (sources : Sources) {fanout : Nat}
    (schedule : Schedule fanout) (row : StoredBlock) :
    (sources.assembleInTurns schedule row).AsksNoNode :=
  sources.parts_ask_no_node.assemble_in_turns asks_no_node_composable schedule row

theorem latest_blocks_asks_no_node (sources : Sources) (count : Int) (offset : Option Int) :
    (Store.latestBlocks sources.connection count offset).AsksNoNode :=
  (Store.ask_asks_no_node _ _).bind fun _ => asks_no_node_of_except _

/-- A block with an epoch takes the request for its own height. -/
theorem with_epoch_requests {assembled : Explore Block} (quiet : assembled.AsksNoNode)
    (node : Node) :
    (do
      let block ← assembled
      let epoch ← node.epoch block.header.height
      return (⟨block, epoch⟩ : EpochBlock)).Requests
        fun annotated => [annotated.height] :=
  Requests.behind quiet fun block =>
    (node.epoch_requests block.header.height).bind_pure fun _ => rfl

theorem page_in_turns_requests (sources : Sources) {fanout : Nat} (schedule : Schedule fanout)
    {count : Int} {offset : Option Int} (counted : 0 ≤ count) (shifted : 0 ≤ offset.getD 0) :
    (sources.pageInTurns schedule count offset).Requests Latest.heights := by
  rw [page_in_turns_eq, if_neg (by omega), if_neg (by omega)]
  refine Requests.behind (latest_blocks_asks_no_node sources count offset) fun rows => ?_
  have each : ∀ row, (sources.annotateInTurns schedule row).Requests
      fun annotated => [annotated.height] := by
    intro row
    exact with_epoch_requests (assemble_in_turns_asks_no_node sources schedule row) sources.node
  exact (gather_requests each (schedule rows.length).complete).bind_pure fun _ => rfl

end Sources

end BlockExplorer
