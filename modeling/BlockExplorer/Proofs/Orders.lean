import BlockExplorer.Proofs.Histories

/-!
Runs that cannot be told apart: both fail, or both find the same, count the same and ask for the
same as often, in whatever order. Two runs that do the same in every session change places without
being noticed. So tasks may be done in any order, and a part of what is to do for one of them may be
taken before what is to do for the others.
-/

namespace BlockExplorer

/-- Both counts agree, and the same was asked for as often, in whatever order. -/
structure Session.Matches (first second : Session) : Prop where
  failures : first.decodeFailures = second.decodeFailures
  requests : first.requests = second.requests
  queries : first.queries.Perm second.queries
  paths : first.epochPaths.Perm second.epochPaths

namespace Explore

variable {α β γ : Type}

/-- Both outcomes are a failure, or both have the same content and sessions that match. -/
inductive Indistinct : Except Failure α × Session → Except Failure α × Session → Prop
  | found {content : α} {first second : Session} (matching : first.Matches second) :
      Indistinct (.ok content, first) (.ok content, second)
  | failed {fault other : Failure} {first second : Session} :
      Indistinct (.error fault, first) (.error other, second)

/-- The outcomes of the runs cannot be told apart, in any session. -/
def SeenAlike (run other : Explore α) : Prop :=
  ∀ session, Indistinct (run.outcome session) (other.outcome session)

def Fails (run : Explore α) : Prop :=
  ∀ session, ∃ failure, (run.outcome session).1 = .error failure

/-- A task for each of some items, in any order that names each once, is seen as the task for one
item behind the other. In any order it fails exactly if it fails for one of the items. -/
structure OrderUnseen (task : α → Explore β) (all : List α → Explore (List β)) : Prop where
  alike : ∀ items (order : TaskOrder items.length),
    (gather task order.places items).SeenAlike (all items)
  fails : ∀ items (order : TaskOrder items.length),
    (gather task order.places items).Fails ↔ ∃ item ∈ items, (task item).Fails

end Explore

namespace Session.Matches

variable {first second third : Session}

theorem refl (session : Session) : session.Matches session :=
  ⟨rfl, rfl, .refl _, .refl _⟩

theorem symm (matching : first.Matches second) : second.Matches first :=
  ⟨matching.failures.symm, matching.requests.symm, matching.queries.symm, matching.paths.symm⟩

theorem trans (head : first.Matches second) (tail : second.Matches third) : first.Matches third :=
  ⟨head.failures.trans tail.failures, head.requests.trans tail.requests,
    head.queries.trans tail.queries, head.paths.trans tail.paths⟩

theorem append (matching : first.Matches second) (done : Session) :
    (first.append done).Matches (second.append done) where
  failures := congrArg (· + done.decodeFailures) matching.failures
  requests := congrArg (· + done.requests) matching.requests
  queries := by
    rw [queries_append, queries_append]
    exact matching.queries.append_right _
  paths := by
    rw [epoch_paths_append, epoch_paths_append]
    exact matching.paths.append_right _

theorem append_comm (before done other : Session) :
    ((before.append done).append other).Matches ((before.append other).append done) where
  failures := Nat.add_right_comm _ _ _
  requests := Nat.add_right_comm _ _ _
  queries := by
    simp only [queries_append, List.append_assoc]
    exact List.perm_append_comm.append_left _
  paths := by
    simp only [epoch_paths_append, List.append_assoc]
    exact List.perm_append_comm.append_left _

end Session.Matches

namespace Explore

variable {α β γ : Type}

namespace Indistinct

variable {first second third : Except Failure α × Session}

theorem refl (outcome : Except Failure α × Session) : Indistinct outcome outcome := by
  obtain ⟨result, after⟩ := outcome
  cases result with
  | ok content => exact .found (.refl after)
  | error failure => exact .failed

theorem symm (same : Indistinct first second) : Indistinct second first := by
  cases same with
  | found matching => exact .found matching.symm
  | failed => exact .failed

theorem trans (head : Indistinct first second) (tail : Indistinct second third) :
    Indistinct first third := by
  cases head with
  | found early =>
      cases tail with
      | found late => exact .found (early.trans late)
  | failed =>
      cases tail with
      | failed => exact .failed

/-- What a uniform run does goes on from sessions that match to such that match. -/
theorem of_uniform {run : Explore α} (uniform : run.Uniform) {before other : Session}
    (matching : before.Matches other) : Indistinct (run.outcome before) (run.outcome other) := by
  rw [uniform before, uniform other]
  rcases run.outcome .start with ⟨result, done⟩
  cases result with
  | ok content => exact .found (matching.append done)
  | error failure => exact .failed

end Indistinct

namespace SeenAlike

variable {run other third : Explore α}

theorem refl (run : Explore α) : run.SeenAlike run := fun _ => .refl _

theorem symm (alike : run.SeenAlike other) : other.SeenAlike run := fun session =>
  (alike session).symm

theorem trans (head : run.SeenAlike other) (tail : other.SeenAlike third) :
    run.SeenAlike third := fun session => (head session).trans (tail session)

theorem yields_ok {content : α} (alike : run.SeenAlike other) (yields : run.Yields (.ok content)) :
    other.Yields (.ok content) := by
  intro session
  have same := alike session
  rw [show run.outcome session = (.ok content, (run.outcome session).2) from
    Prod.ext (yields session) rfl] at same
  generalize other.outcome session = outcome at same
  cases same
  rfl

theorem bind_left {next : α → Explore β} (alike : run.SeenAlike other)
    (uniform : ∀ content, (next content).Uniform) :
    (run >>= next).SeenAlike (other >>= next) := by
  intro session
  rw [outcome_bind, outcome_bind]
  cases first : run.outcome session with
  | mk result after =>
    cases second : other.outcome session with
    | mk otherResult later =>
      have same := alike session
      rw [first, second] at same
      cases same with
      | found matching => exact .of_uniform (uniform _) matching
      | failed => exact .failed

theorem bind_right {next behind : α → Explore β}
    (alike : ∀ content, (next content).SeenAlike (behind content)) :
    (run >>= next).SeenAlike (run >>= behind) := by
  intro session
  rw [outcome_bind, outcome_bind]
  rcases run.outcome session with ⟨result, after⟩
  cases result with
  | ok content => exact alike content after
  | error failure => exact .failed

theorem map (alike : run.SeenAlike other) (f : α → β) : (f <$> run).SeenAlike (f <$> other) := by
  rw [map_eq_pure_bind, map_eq_pure_bind]
  exact alike.bind_left fun content => uniform_pure _

/-- A guard before both runs refuses both. -/
theorem behind_guard {refused : Prop} [Decidable refused] {refusal : Explore α}
    (alike : run.SeenAlike other) :
    (if refused then refusal else run).SeenAlike (if refused then refusal else other) := by
  split
  · exact .refl refusal
  · exact alike

/-- Two uniform runs change places. -/
theorem swap {run : Explore α} {other : Explore β} (uniform : run.Uniform)
    (alsoUniform : other.Uniform) (next : α → β → Explore γ)
    (goesOn : ∀ content found, (next content found).Uniform) :
    (do
      let content ← run
      let found ← other
      next content found).SeenAlike
    (do
      let found ← other
      let content ← run
      next content found) := by
  intro session
  have head := uniform
  have tail := alsoUniform
  unfold Uniform at head tail
  generalize run.outcome .start = first at head
  generalize other.outcome .start = second at tail
  obtain ⟨result, done⟩ := first
  obtain ⟨otherResult, otherDone⟩ := second
  simp only [outcome_bind, head, tail]
  cases result with
  | error failure =>
      cases otherResult with
      | error fault => exact .failed
      | ok found => exact .failed
  | ok content =>
      cases otherResult with
      | error fault => exact .failed
      | ok found => exact .of_uniform (goesOn content found) (.append_comm session done otherDone)

end SeenAlike

theorem one_by_one_eq {task : α → Explore β} (all : List α → Explore (List β))
    (idle : all [] = pure [])
    (step : ∀ item rest, all (item :: rest) = do
      let first ← task item
      let others ← all rest
      return first :: others) (items : List α) : oneByOne task items = all items := by
  induction items with
  | nil => rw [idle, oneByOne]
  | cons item rest induction => rw [step, oneByOne, induction]

theorem one_by_one_alike {task other : α → Explore β}
    (uniform : ∀ item, (task item).Uniform) (alike : ∀ item, (task item).SeenAlike (other item))
    (items : List α) : (oneByOne task items).SeenAlike (oneByOne other items) := by
  induction items with
  | nil => exact .refl _
  | cons item rest induction =>
      have others : ∀ first : β, (do
          let others ← oneByOne task rest
          return first :: others).SeenAlike (do
          let others ← oneByOne other rest
          return first :: others) := fun first => induction.bind_left fun _ => uniform_pure _
      refine ((alike item).bind_left fun first => ?_).trans (.bind_right others)
      exact (uniform_composable.one_by_one uniform rest).bind fun _ => uniform_pure _

/-- A step that does part of what is left to do of an item may be taken first, at any place. -/
theorem one_by_one_behind_step_at {step : α → Explore α} {finish : α → Explore β}
    (steps : ∀ item, (step item).Uniform) (finishes : ∀ item, (finish item).Uniform)
    (unseen : ∀ item, (finish item).SeenAlike (step item >>= finish)) (place : Nat)
    (items : List α) :
    (oneByOne finish items).SeenAlike (stepAt step place items >>= oneByOne finish) := by
  have goesOn (items : List α) (first : β) : (do
      let others ← oneByOne finish items
      return first :: others).Uniform :=
    (uniform_composable.one_by_one finishes items).bind fun _ => uniform_pure _
  induction items generalizing place with
  | nil =>
      rw [stepAt, pure_bind]
      exact .refl _
  | cons item rest induction =>
      cases place with
      | zero =>
          rw [stepAt, bind_assoc]
          simp only [pure_bind, oneByOne]
          rw [← bind_assoc]
          exact (unseen item).bind_left (goesOn rest)
      | succ place =>
          rw [stepAt, bind_assoc]
          simp only [pure_bind, oneByOne]
          -- The step of another item changes places with all that is to do for the first one.
          have swapped := SeenAlike.swap (uniform_composable.step_at steps place rest)
            (finishes item) (fun others first => do
              let shown ← oneByOne finish others
              return first :: shown) (fun others first => goesOn others first)
          refine .trans (.bind_right fun first => ?_) swapped.symm
          rw [← bind_assoc]
          exact (induction place).bind_left fun _ => uniform_pure _

def effect (run : Explore α) : Explore Unit := (fun _ => ()) <$> run

theorem effect_run_placed_cons (task : α → Explore β) (entry : Nat × α) (rest : List (Nat × α)) :
    effect (runPlaced task (entry :: rest)) =
      task entry.2 >>= fun _ => effect (runPlaced task rest) := by
  simp only [effect, runPlaced, map_eq_pure_bind, bind_assoc, pure_bind]

theorem run_placed_perm {task : α → Explore β} (uniform : ∀ item, (task item).Uniform)
    {entries others : List (Nat × α)} (perm : entries.Perm others) :
    (effect (runPlaced task entries)).SeenAlike (effect (runPlaced task others)) := by
  induction perm with
  | nil => exact .refl _
  | cons entry _ induction =>
      rw [effect_run_placed_cons, effect_run_placed_cons]
      exact .bind_right fun _ => induction
  | swap first second rest =>
      simp only [effect_run_placed_cons]
      refine .swap (uniform second.2) (uniform first.2) _ fun _ _ => ?_
      exact uniform_composable.map (uniform_composable.run_placed uniform rest) _
  | trans _ _ head tail => exact head.trans tail

/-- Runs that come to the same content are seen alike if their effects are. -/
theorem SeenAlike.of_effect {run other : Explore α} {content : α}
    (effects : (effect run).SeenAlike (effect other)) (first : run.Yields (.ok content))
    (second : other.Yields (.ok content)) : run.SeenAlike other := by
  intro session
  have same := effects session
  have left := first session
  have right := second session
  rw [effect, effect, outcome_map, outcome_map] at same
  generalize run.outcome session = outcome at same left
  generalize other.outcome session = otherOutcome at same right
  obtain ⟨result, after⟩ := outcome
  obtain ⟨otherResult, later⟩ := otherOutcome
  cases left
  cases right
  cases same with
  | found matching => exact .found matching

theorem SeenAlike.of_failures {run other : Explore α} {failure fault : Failure}
    (first : run.Yields (.error failure)) (second : other.Yields (.error fault)) :
    run.SeenAlike other := by
  intro session
  have left := first session
  have right := second session
  generalize run.outcome session = outcome at left
  generalize other.outcome session = otherOutcome at right
  obtain ⟨result, after⟩ := outcome
  obtain ⟨otherResult, later⟩ := otherOutcome
  cases left
  cases right
  exact .failed

theorem gather_alike {task : α → Explore β} (uniform : ∀ item, (task item).Uniform)
    {order other : List Nat} {items : List α} (complete : order.Perm (List.range items.length))
    (alsoComplete : other.Perm (List.range items.length)) :
    (gather task order items).SeenAlike (gather task other items) := by
  have each := fun item => (uniform item).yields
  cases collected : items.mapM fun item => ((task item).outcome .start).1 with
  | ok contents =>
      refine .of_effect ?_ (gather_yields_ok each complete collected)
        (gather_yields_ok each alsoComplete collected)
      have placedPerm : (placed order items).Perm (placed other items) :=
        (complete.trans alsoComplete.symm).filterMap _
      have silent (places : List Nat) :
          effect (gather task places items) = effect (runPlaced task (placed places items)) := by
        simp only [effect, gather, map_eq_pure_bind, bind_assoc, pure_bind]
      rw [silent, silent]
      exact run_placed_perm uniform placedPerm
  | error failure =>
      obtain ⟨_, _, _, _, failed⟩ := gather_yields_error each complete collected
      obtain ⟨_, _, _, _, alsoFailed⟩ := gather_yields_error each alsoComplete collected
      exact .of_failures failed alsoFailed

theorem gather_alike_one_by_one {task : α → Explore β} (uniform : ∀ item, (task item).Uniform)
    {order : List Nat} {items : List α} (complete : order.Perm (List.range items.length)) :
    (gather task order items).SeenAlike (oneByOne task items) := by
  rw [← gather_in_order (oneByOne task) rfl (fun _ _ => rfl) items]
  exact gather_alike uniform complete (.refl _)

/-- One task behind the other finds what each of them finds. -/
theorem one_by_one_yields_ok_iff {task : α → Explore β} (uniform : ∀ item, (task item).Uniform)
    {items : List α} {contents : List β} :
    (oneByOne task items).Yields (.ok contents) ↔
      List.Forall₂ (fun item content => (task item).Yields (.ok content)) items contents := by
  induction items generalizing contents with
  | nil =>
      rw [oneByOne, pure_yields_ok_iff, List.forall₂_nil_left_iff]
  | cons item rest induction =>
      have others := uniform_composable.one_by_one uniform rest
      rw [oneByOne, (uniform item).bind_yields_ok_iff fun _ => others.bind fun _ =>
        uniform_pure _, List.forall₂_cons_left_iff]
      simp only [others.bind_yields_ok_iff fun _ => uniform_pure _, pure_yields_ok_iff, induction]
      constructor
      · rintro ⟨first, head, later, tail, rfl⟩
        exact ⟨first, later, head, tail, rfl⟩
      · rintro ⟨first, later, head, tail, rfl⟩
        exact ⟨first, head, later, tail, rfl⟩

theorem Yields.fails_iff {run : Explore α} {result : Except Failure α}
    (yields : run.Yields result) : run.Fails ↔ ∃ failure, result = .error failure := by
  constructor
  · intro fails
    obtain ⟨failure, failed⟩ := fails .start
    exact ⟨failure, (yields .start).symm.trans failed⟩
  · rintro ⟨failure, rfl⟩ session
    exact ⟨failure, yields session⟩

theorem fails_bind_iff {run : Explore α} {next : α → Explore β} (uniform : run.Uniform)
    (goesOn : ∀ content, (next content).Uniform) :
    (run >>= next).Fails ↔ run.Fails ∨ ∃ content, run.Finds content ∧ (next content).Fails := by
  have head := uniform.yields
  cases first : (run.outcome .start).1 with
  | error failure =>
      rw [first] at head
      have whole : (run >>= next).Yields (.error failure) := head.bind_error
      have wholeFails := whole.fails_iff.mpr ⟨failure, rfl⟩
      have runFails := head.fails_iff.mpr ⟨failure, rfl⟩
      exact ⟨fun _ => .inl runFails, fun _ => wholeFails⟩
  | ok content =>
      rw [first] at head
      have tail := (goesOn content).yields
      have finds : run.Finds content := ⟨.start, (run.outcome .start).2, Prod.ext first rfl⟩
      constructor
      · intro fails
        exact .inr ⟨content, finds, tail.fails_iff.mpr ((head.bind_ok tail).fails_iff.mp fails)⟩
      · rintro (fails | ⟨other, ⟨session, after, found⟩, fails⟩)
        · obtain ⟨_, impossible⟩ := head.fails_iff.mp fails
          cases impossible
        · have same := head session
          rw [found] at same
          cases same
          exact (head.bind_ok tail).fails_iff.mpr (tail.fails_iff.mp fails)

theorem not_fails_pure (content : α) : ¬(pure content : Explore α).Fails := by
  intro fails
  obtain ⟨_, impossible⟩ := fails .start
  cases impossible

theorem fails_bind_pure_iff {run : Explore α} (uniform : run.Uniform) (f : α → β) :
    (run >>= fun content => pure (f content)).Fails ↔ run.Fails := by
  rw [fails_bind_iff uniform fun _ => uniform_pure _]
  constructor
  · rintro (fails | ⟨content, _, fails⟩)
    · exact fails
    · exact absurd fails (not_fails_pure _)
  · exact .inl

theorem gather_fails_iff {task : α → Explore β} (uniform : ∀ item, (task item).Uniform)
    {order : List Nat} {items : List α} (complete : order.Perm (List.range items.length)) :
    (gather task order items).Fails ↔ ∃ item ∈ items, (task item).Fails := by
  have each := fun item => (uniform item).yields
  cases collected : items.mapM fun item => ((task item).outcome .start).1 with
  | ok contents =>
      rw [(gather_yields_ok each complete collected).fails_iff]
      constructor
      · rintro ⟨_, impossible⟩
        cases impossible
      · rintro ⟨item, member, fails⟩
        obtain ⟨failure, failed⟩ := fails .start
        obtain ⟨content, found⟩ :=
          Collecting.map_m_succeeds_iff.mp ⟨contents, collected⟩ item member
        rw [failed] at found
        cases found
  | error failure =>
      obtain ⟨item, member, found, failed, gathered⟩ := gather_yields_error each complete collected
      rw [gathered.fails_iff]
      have itemFails := (each item).fails_iff.mpr ⟨found, failed⟩
      exact ⟨fun _ => ⟨item, member, itemFails⟩, fun _ => ⟨found, rfl⟩⟩

theorem order_unseen {task : α → Explore β} {all : List α → Explore (List β)}
    (uniform : ∀ item, (task item).Uniform)
    (alike : ∀ items, (oneByOne task items).SeenAlike (all items)) : OrderUnseen task all where
  alike items order := (gather_alike_one_by_one uniform order.complete).trans (alike items)
  fails _ order := gather_fails_iff uniform order.complete

end Explore

end BlockExplorer
