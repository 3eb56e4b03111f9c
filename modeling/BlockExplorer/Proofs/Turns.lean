import BlockExplorer.Lookup.Interleaving
import BlockExplorer.Proofs.Answers

/-!
The order in which tasks end does not show in what they come to. Places are kept beside the items,
so arranging the results by place undoes any order that names each place once.
-/

namespace BlockExplorer

namespace Explore

variable {α β : Type}

theorem placed_cons_of_lt {place : Nat} {rest : List Nat} {items : List α}
    (bound : place < items.length) :
    placed (place :: rest) items = (place, items[place]) :: placed rest items := by
  rw [placed, List.filterMap_cons, List.getElem?_eq_getElem bound]
  rfl

theorem lookup_placed {order : List Nat} {items : List α} {place : Nat}
    (bounded : ∀ other ∈ order, other < items.length) (member : place ∈ order) :
    (placed order items).lookup place = items[place]? := by
  induction order with
  | nil => simp at member
  | cons first rest induction =>
      have bound : first < items.length := bounded first (by simp)
      rw [placed_cons_of_lt bound, Dictionary.lookup_cons]
      by_cases same : place = first
      · subst same
        rw [if_pos rfl, List.getElem?_eq_getElem bound]
      · rw [if_neg same]
        apply induction
        · intro other later
          exact bounded other (List.mem_cons_of_mem first later)
        · exact (List.mem_cons.mp member).resolve_left same

theorem filter_map_range_get_elem? (items : List α) :
    (List.range items.length).filterMap (fun place => items[place]?) = items := by
  induction items with
  | nil => rfl
  | cons item rest induction =>
      rw [List.length_cons, List.range_succ_eq_map, List.filterMap_cons, List.filterMap_map]
      simp only [List.getElem?_cons_zero]
      exact congrArg (item :: ·) induction

theorem placed_range (items : List α) :
    placed (List.range items.length) items = (List.range items.length).zip items := by
  have each (pair : Nat → α → Nat × α) : (List.range items.length).filterMap
      (fun place => items[place]?.map (pair place)) =
        List.zipWith pair (List.range items.length) items := by
    induction items generalizing pair with
    | nil => rfl
    | cons item rest induction =>
        rw [List.length_cons, List.range_succ_eq_map, List.filterMap_cons, List.filterMap_map,
          List.zipWith_cons_cons, List.zipWith_map_left]
        simp only [List.getElem?_cons_zero, Option.map_some]
        exact congrArg (pair 0 item :: ·) (induction fun place => pair (place + 1))
  exact each Prod.mk

/-- Arranging undoes every order that names each place once. -/
theorem arranged_placed {order : List Nat} {items : List α}
    (complete : order.Perm (List.range items.length)) :
    arranged items.length (placed order items) = items := by
  have bounded : ∀ place ∈ order, place < items.length := by
    intro place member
    exact List.mem_range.mp (complete.mem_iff.mp member)
  have found : ∀ place ∈ List.range items.length,
      (placed order items).lookup place = items[place]? := by
    intro place member
    exact lookup_placed bounded (complete.mem_iff.mpr member)
  rw [arranged, List.filterMap_congr found]
  exact filter_map_range_get_elem? items

theorem mem_of_mem_placed {order : List Nat} {items : List α} {entry : Nat × α}
    (member : entry ∈ placed order items) : entry.2 ∈ items := by
  obtain ⟨place, _, found⟩ := List.mem_filterMap.mp member
  obtain ⟨item, present, same⟩ := Option.map_eq_some_iff.mp found
  rw [← same]
  exact List.mem_of_getElem? present

theorem mem_placed_of_mem {order : List Nat} {items : List α} {item : α}
    (complete : order.Perm (List.range items.length)) (member : item ∈ items) :
    ∃ place, (place, item) ∈ placed order items := by
  obtain ⟨place, bound, same⟩ := List.getElem_of_mem member
  have named : place ∈ order := complete.mem_iff.mpr (List.mem_range.mpr bound)
  refine ⟨place, List.mem_filterMap.mpr ⟨place, named, ?_⟩⟩
  rw [List.getElem?_eq_getElem bound, same]
  rfl

theorem map_m_placed {verdict : α → Except Failure β} {order : List Nat} {items : List α}
    {contents : List β} (bounded : ∀ place ∈ order, place < items.length)
    (collected : items.mapM verdict = .ok contents) :
    ((placed order items).mapM fun entry => (verdict entry.2).map fun content =>
      (entry.1, content)) = .ok (placed order contents) := by
  have paired := Collecting.map_m_eq_ok_iff.mp collected
  have sameLength := paired.length_eq
  induction order with
  | nil => rfl
  | cons place rest induction =>
      have bound : place < items.length := bounded place (by simp)
      have contentBound : place < contents.length := by omega
      have head : verdict items[place] = .ok contents[place] := paired.get bound contentBound
      have tail := induction fun other later => bounded other (List.mem_cons_of_mem place later)
      rw [placed_cons_of_lt bound, placed_cons_of_lt contentBound, Collecting.map_m_cons_eq, tail,
        head]
      rfl

theorem run_placed_yields {task : α → Explore β} {verdict : α → Except Failure β}
    (each : ∀ item, (task item).Yields (verdict item)) (entries : List (Nat × α)) :
    (runPlaced task entries).Yields
      (entries.mapM fun entry => (verdict entry.2).map fun content => (entry.1, content)) := by
  induction entries with
  | nil => exact yields_pure _
  | cons entry rest induction =>
      obtain ⟨place, item⟩ := entry
      rw [Collecting.map_m_cons_eq]
      have head := each item
      cases found : verdict item with
      | ok content =>
          rw [found] at head
          exact head.bind_ok (induction.bind fun _ _ => yields_pure _)
      | error failure =>
          rw [found] at head
          exact head.bind_error

/-- Whatever the order, the contents are those of the items in their own order. -/
theorem gather_yields_ok {task : α → Explore β} {verdict : α → Except Failure β}
    {order : List Nat} {items : List α} {contents : List β}
    (each : ∀ item, (task item).Yields (verdict item))
    (complete : order.Perm (List.range items.length))
    (collected : items.mapM verdict = .ok contents) :
    (gather task order items).Yields (.ok contents) := by
  have bounded : ∀ place ∈ order, place < items.length := by
    intro place member
    exact List.mem_range.mp (complete.mem_iff.mp member)
  have results := run_placed_yields each (placed order items)
  rw [map_m_placed bounded collected] at results
  have sameLength := (Collecting.map_m_eq_ok_iff.mp collected).length_eq
  have undone : arranged items.length (placed order contents) = contents := by
    rw [sameLength]
    exact arranged_placed (sameLength ▸ complete)
  refine results.bind_ok ?_
  rw [undone]
  exact yields_pure contents

/-- Where an item fails, one of the failing items fails the whole, whichever comes first. -/
theorem gather_yields_error {task : α → Explore β} {verdict : α → Except Failure β}
    {order : List Nat} {items : List α} {failure : Failure}
    (each : ∀ item, (task item).Yields (verdict item))
    (complete : order.Perm (List.range items.length))
    (failed : items.mapM verdict = .error failure) :
    ∃ item ∈ items, ∃ found, verdict item = .error found ∧
      (gather task order items).Yields (.error found) := by
  have results := run_placed_yields each (placed order items)
  cases collected : (placed order items).mapM
      (fun entry => (verdict entry.2).map fun content => (entry.1, content)) with
  | error found =>
      rw [collected] at results
      obtain ⟨entry, member, fault⟩ := Collecting.exists_of_map_m_eq_error collected
      have same : verdict entry.2 = .error found := by
        cases head : verdict entry.2 with
        | ok content =>
            rw [head] at fault
            cases fault
        | error other =>
            rw [head] at fault
            rw [Except.error.inj fault]
      exact ⟨entry.2, mem_of_mem_placed member, found, same, results.bind_error⟩
  | ok contents =>
      obtain ⟨item, member, fault⟩ := Collecting.exists_of_map_m_eq_error failed
      obtain ⟨place, present⟩ := mem_placed_of_mem complete member
      obtain ⟨content, success⟩ :=
        Collecting.map_m_succeeds_iff.mp ⟨contents, collected⟩ (place, item) present
      rw [fault] at success
      cases success

theorem gather_nil (task : α → Explore β) (order : List Nat) :
    gather task order [] = pure [] := by
  have empty : placed order ([] : List α) = [] := by simp [placed]
  rw [gather, empty, runPlaced, pure_bind]
  rfl

/-- In whatever turns, one item is done alone. -/
theorem gather_singleton (task : α → Explore β) {fanout : Nat}
    (turns : Turns fanout 1) (item : α) :
    gather task turns.order [item] = (fun found => [found]) <$> task item := by
  have alone : turns.order = [0] := List.perm_singleton.mp turns.complete
  have whole : ∀ found : β, arranged 1 [(0, found)] = [found] := fun _ => rfl
  simp only [alone, gather, placed, List.filterMap_cons, List.filterMap_nil,
    List.getElem?_cons_zero, Option.map_some, runPlaced, bind_assoc, pure_bind,
    List.length_singleton, whole, map_eq_pure_bind]

open Collecting in
theorem gather_collects {task : α → Explore β} {verdict : α → Except Failure β} {order : List Nat}
    {items : List α} (each : ∀ item, (task item).Yields (verdict item))
    (complete : order.Perm (List.range items.length)) :
    ∃ result, (gather task order items).Yields result ∧
      Collects (fun item result => verdict item = result) items result := by
  cases collected : items.mapM verdict with
  | ok contents =>
      have paired := map_m_eq_ok_iff.mp collected
      exact ⟨.ok contents, gather_yields_ok each complete collected, .all paired⟩
  | error failure =>
      obtain ⟨item, member, found, failed, gathered⟩ := gather_yields_error each complete collected
      exact ⟨.error found, gathered, .failed member failed⟩

section

variable {task : α → Explore β} (all : List α → Explore (List β)) (idle : all [] = pure [])
  (step : ∀ item rest, all (item :: rest) = do
    let first ← task item
    let others ← all rest
    return first :: others)

include idle step

theorem length_of_all {items : List α} {session after : Session} {contents : List β}
    (found : (all items).outcome session = (.ok contents, after)) :
    contents.length = items.length := by
  induction items generalizing session contents with
  | nil =>
      rw [idle, outcome_pure] at found
      cases found
      rfl
  | cons item rest induction =>
      rw [step] at found
      obtain ⟨first, between, _, later⟩ := outcome_bind_eq_ok_iff.mp found
      obtain ⟨others, last, tail, done⟩ := outcome_bind_eq_ok_iff.mp later
      cases done
      rw [List.length_cons, List.length_cons, induction tail]

theorem outcome_run_placed_zip (places : List Nat) (items : List α)
    (enough : places.length = items.length) (session : Session) :
    (runPlaced task (places.zip items)).outcome session =
      (((all items).outcome session).1.map (places.zip ·), ((all items).outcome session).2) := by
  -- The places are any: the rest of the items has the places behind the first one.
  induction items generalizing places session with
  | nil =>
      rw [List.zip_nil_right, idle]
      simp only [runPlaced, outcome_pure, Except.map, List.zip_nil_right]
  | cons item rest induction =>
      cases places with
      | nil => simp at enough
      | cons place others =>
          have fewer : others.length = rest.length := by simpa using enough
          simp only [List.zip_cons_cons, runPlaced, step, outcome_bind, outcome_pure]
          rcases (task item).outcome session with ⟨found, after⟩
          cases found with
          | error failure => rfl
          | ok content =>
              simp only [induction others fewer after]
              rcases (all rest).outcome after with ⟨tail, last⟩
              cases tail <;> rfl

/-- In the order of the items, tasks that end in turns are done one by one. -/
theorem gather_in_order (items : List α) :
    gather task (List.range items.length) items = all items := by
  apply ext_outcome
  intro session
  have enough : (List.range items.length).length = items.length := List.length_range
  rw [gather, placed_range, outcome_bind, outcome_run_placed_zip all idle step _ items enough]
  rcases result : (all items).outcome session with ⟨found, after⟩
  cases found with
  | error failure => rfl
  | ok contents =>
      have size : contents.length = items.length := length_of_all all idle step result
      have undone : arranged items.length ((List.range items.length).zip contents) = contents := by
        rw [← size, ← placed_range]
        exact arranged_placed (List.Perm.refl _)
      simp only [Except.map, undone, outcome_pure]

end

end Explore

namespace Sources

open Explore

variable (sources : Sources) {fanout : Nat} (room : 0 < fanout)

theorem assemble_in_order (row : StoredBlock) :
    sources.assembleInTurns (Schedule.inOrder room) row = sources.assemble row := by
  have classified (entries : List IndexEntry) :
      gather sources.classify (Schedule.inOrder room entries.length).order entries =
        sources.classifyAll entries :=
    gather_in_order sources.classifyAll rfl (fun _ _ => rfl) entries
  simp only [assemble_in_turns_eq, assemble, classified]

theorem assemble_some_in_order (row : Option StoredBlock) :
    sources.assembleSomeInTurns (Schedule.inOrder room) row = sources.assembleSome row := by
  cases row with
  | none => rfl
  | some row => rw [assembleSomeInTurns, assembleSome, assemble_in_order]

theorem by_hash_in_order :
    sources.byHashInTurns (Schedule.inOrder room) = sources.byHash := by
  funext hash
  simp only [byHashInTurns, byHash, assemble_some_in_order]

theorem by_id_in_order :
    sources.byIdInTurns (Schedule.inOrder room) = sources.byId := by
  funext id
  simp only [byIdInTurns, byId, assemble_some_in_order]

theorem by_height_in_order :
    sources.byHeightInTurns (Schedule.inOrder room) = sources.byHeight := by
  funext height
  simp only [byHeightInTurns, byHeight, assemble_some_in_order]

theorem annotate_in_order (row : StoredBlock) :
    sources.annotateInTurns (Schedule.inOrder room) row = sources.annotate row := by
  rw [annotate_in_turns_eq, assemble_in_order, annotate]

theorem page_in_order (count : Int) (offset : Option Int) :
    sources.pageInTurns (Schedule.inOrder room) count offset =
      sources.latest (some count) offset := by
  have annotated (rows : List StoredBlock) :
      gather (sources.annotateInTurns (Schedule.inOrder room))
        (Schedule.inOrder room rows.length).order rows = sources.annotateAll rows := by
    refine gather_in_order sources.annotateAll rfl (fun row rest => ?_) rows
    rw [annotate_in_order]
    rfl
  simp only [page_in_turns_eq, latest, page, annotated]

theorem last_in_order : sources.lastInTurns (Schedule.inOrder room) = sources.last := by
  simp only [lastInTurns, last, annotate_in_order]

theorem look_in_order (lookup : Lookup) :
    sources.lookInTurns (Schedule.inOrder room) lookup = sources.look lookup := by
  cases lookup with
  | byHash hash => rw [lookInTurns, look, by_hash_in_order]
  | byHashText text =>
      rw [lookInTurns, look, byHashText]
      cases BlockHash.parse text with
      | error fault => rfl
      | ok hash =>
          have same := congrFun (sources.by_hash_in_order room) hash
          exact congrArg (Found.block <$> ·) same
  | byHeight height => rw [lookInTurns, look, by_height_in_order]
  | byId id => rw [lookInTurns, look, by_id_in_order]
  | latest count offset =>
      cases count with
      | none => rw [lookInTurns, look, last_in_order, latest]
      | some count => rw [lookInTurns, look, page_in_order]

end Sources

end BlockExplorer
