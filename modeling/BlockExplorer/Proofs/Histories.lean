import BlockExplorer.Proofs.Composition
import BlockExplorer.Proofs.Turns

/-!
What a lookup does in any session is what it does in a fresh one, put behind what was done before:
the counts go up by as much, and the same accesses are made, but for the numbers of the requests to
the node, which go on from the last one. So nothing that happened earlier shows in what is found, in
what fails, or in what is asked.
-/

namespace BlockExplorer

/-- The access as it is made when so many requests have been numbered already. -/
def Access.behind (earlier : Nat) : Access → Access
  | .epoch request sent => .epoch { request with id := earlier + request.id } sent
  | access => access

namespace Session

def append (before done : Session) : Session :=
  ⟨before.decodeFailures + done.decodeFailures, before.requests + done.requests,
    before.accesses ++ done.accesses.map (Access.behind before.requests)⟩

def epochPaths (session : Session) : List String := session.epochRequests.map EpochRequest.path

end Session

theorem Access.behind_behind (first second : Nat) (access : Access) :
    (access.behind second).behind first = access.behind (first + second) := by
  cases access with
  | epoch request sent => simp only [behind, Nat.add_assoc]
  | _ => rfl

namespace Session

theorem append_start (session : Session) : session.append start = session := by
  simp only [append, start, Nat.add_zero, List.map_nil, List.append_nil]

theorem append_assoc (first second third : Session) :
    (first.append second).append third = first.append (second.append third) := by
  simp only [append, Nat.add_assoc, List.map_append, List.map_map, List.append_assoc,
    Function.comp_def, Access.behind_behind]

theorem queries_append (before done : Session) :
    (before.append done).queries = before.queries ++ done.queries := by
  rw [queries, append, List.filterMap_append, List.filterMap_map]
  congr 1
  apply List.filterMap_congr
  intro access _
  cases access <;> rfl

theorem epoch_paths_append (before done : Session) :
    (before.append done).epochPaths = before.epochPaths ++ done.epochPaths := by
  simp only [epochPaths, epochRequests, append, List.filterMap_append, List.map_append,
    List.filterMap_map, List.map_filterMap]
  congr 1
  apply List.filterMap_congr
  intro access _
  cases access with
  | epoch request sent => cases sent <;> rfl
  | _ => rfl

end Session

namespace Explore

/-- The run does in every session what it does in a fresh one. -/
def Uniform {α : Type} (run : Explore α) : Prop :=
  ∀ session, run.outcome session =
    ((run.outcome .start).1, session.append (run.outcome .start).2)

/-- The run comes to the same in both sessions and makes the same accesses, in the same order, but
for the numbers of its requests, which go on from those before. Both counts grow by as much. -/
structure ActsAlike {α : Type} (run : Explore α) (first second : Session) : Prop where
  result : (run.outcome first).1 = (run.outcome second).1
  queries : ∃ made, (run.outcome first).2.queries = first.queries ++ made ∧
    (run.outcome second).2.queries = second.queries ++ made
  paths : ∃ made, (run.outcome first).2.epochPaths = first.epochPaths ++ made ∧
    (run.outcome second).2.epochPaths = second.epochPaths ++ made
  accesses : ∃ made : List Access,
    (run.outcome first).2.accesses = first.accesses ++ made.map (Access.behind first.requests) ∧
    (run.outcome second).2.accesses = second.accesses ++ made.map (Access.behind second.requests)
  failures : ∃ more, (run.outcome first).2.decodeFailures = first.decodeFailures + more ∧
    (run.outcome second).2.decodeFailures = second.decodeFailures + more
  requests : ∃ more, (run.outcome first).2.requests = first.requests + more ∧
    (run.outcome second).2.requests = second.requests + more

theorem Uniform.acts_alike {α : Type} {run : Explore α} (uniform : run.Uniform)
    (first second : Session) : run.ActsAlike first second := by
  have left := uniform first
  have right := uniform second
  generalize (run.outcome .start).1 = result at left right
  generalize (run.outcome .start).2 = done at left right
  constructor
  · rw [left, right]
  · refine ⟨done.queries, ?_, ?_⟩
    · rw [left, Session.queries_append]
    · rw [right, Session.queries_append]
  · refine ⟨done.epochPaths, ?_, ?_⟩
    · rw [left, Session.epoch_paths_append]
    · rw [right, Session.epoch_paths_append]
  · refine ⟨done.accesses, ?_, ?_⟩
    · rw [left, Session.append]
    · rw [right, Session.append]
  · refine ⟨done.decodeFailures, ?_, ?_⟩
    · rw [left, Session.append]
    · rw [right, Session.append]
  · refine ⟨done.requests, ?_, ?_⟩
    · rw [left, Session.append]
    · rw [right, Session.append]

theorem uniform_pure {α : Type} (content : α) : (pure content : Explore α).Uniform := by
  intro session
  rw [outcome_pure, outcome_pure, Session.append_start]

theorem uniform_fail {α : Type} (failure : Failure) : (fail failure : Explore α).Uniform := by
  intro session
  rw [outcome_fail, outcome_fail, Session.append_start]

theorem uniform_count_decode_failure : countDecodeFailure.Uniform := by
  intro session
  simp only [outcome_count_decode_failure, Session.append, Session.start, List.map_nil,
    List.append_nil, Nat.zero_add, Nat.add_zero]

/-- The second run meets what the first one has done, in a fresh session as in any other. -/
theorem uniform_composable : Composable fun _ run => run.Uniform where
  idle _ content := uniform_pure content
  behind α β run next first second := by
    intro session
    rw [outcome_bind, outcome_bind, first session]
    rcases run.outcome .start with ⟨result, done⟩
    cases result with
    | error failure => rfl
    | ok content =>
        have later := second content (session.append done)
        have fresh := second content done
        simp only [later, fresh, Session.append_assoc]

theorem Uniform.bind {α β : Type} {run : Explore α} {next : α → Explore β} (first : run.Uniform)
    (second : ∀ content, (next content).Uniform) : (run >>= next).Uniform :=
  uniform_composable.behind _ _ _ _ first second

theorem Uniform.yields {α : Type} {run : Explore α} (uniform : run.Uniform) :
    run.Yields (run.outcome .start).1 := by
  intro session
  rw [uniform session]

/-- What is found in one session is found in all. -/
theorem Uniform.yields_of_finds {α : Type} {run : Explore α} (uniform : run.Uniform) {content : α}
    (found : run.Finds content) : run.Yields (.ok content) := by
  obtain ⟨session, after, outcome⟩ := found
  have same := uniform.yields session
  rw [outcome] at same
  intro other
  exact (uniform.yields other).trans same.symm

theorem Uniform.bind_yields_ok_iff {α β : Type} {run : Explore α} {next : α → Explore β}
    (first : run.Uniform) (second : ∀ content, (next content).Uniform) {content : β} :
    (run >>= next).Yields (.ok content) ↔
      ∃ found, run.Yields (.ok found) ∧ (next found).Yields (.ok content) := by
  constructor
  · intro yields
    obtain ⟨found, head, tail⟩ := finds_bind yields.finds
    exact ⟨found, first.yields_of_finds head, (second found).yields_of_finds tail⟩
  · rintro ⟨found, head, tail⟩
    exact head.bind_ok tail

/-- Where two runs go on alike behind one result, sessions do not tell them apart. -/
theorem Yields.outcome_behind {α β : Type} {run other : Explore α} {next behind : α → Explore β}
    {result : Except Failure α} (first : run.Yields result) (second : other.Yields result)
    (same : ∀ content, result = .ok content → next content = behind content)
    (uniform : ∀ content, (next content).Uniform) (session later : Session) :
    ((run >>= next).outcome session).1 = ((other >>= behind).outcome later).1 := by
  cases result with
  | error failure => rw [first.bind_error session, second.bind_error later]
  | ok content =>
      have yields := (uniform content).yields
      have left := first.bind_ok yields
      rw [same content rfl] at yields
      rw [left session, second.bind_ok yields later, same content rfl]

end Explore

open Explore

theorem Store.ask_uniform (connection : Option Connection) (query : Query) :
    (Store.ask connection query).Uniform := by
  cases connection with
  | none => exact uniform_fail _
  | some connection =>
      intro session
      rw [outcome_ask_some, outcome_ask_some]
      split
      · simp only [Session.record, Session.append, Session.start, Nat.add_zero, List.nil_append,
          List.map_cons, List.map_nil, Access.behind]
      · rw [Session.append_start]

/-- A request to the node goes on from the numbers before. -/
theorem Node.epoch_uniform (node : Node) (height : Int) : (node.epoch height).Uniform := by
  intro session
  rcases Numeral.Writable.cases height with ⟨written, rfl⟩ | long
  · simp only [outcome_epoch, Session.append, Session.start, Nat.add_zero, Nat.zero_add,
      List.nil_append]
    rfl
  · rw [outcome_epoch_of_long node long, outcome_epoch_of_long node long, Session.append_start]

theorem Sources.steps_uniform (sources : Sources) :
    sources.HoldsOfSteps fun _ run => run.Uniform where
  failed _ failure := uniform_fail failure
  count := uniform_count_decode_failure
  asked := Store.ask_uniform sources.connection
  epoch := sources.node.epoch_uniform

theorem Sources.look_in_turns_uniform (sources : Sources) {fanout : Nat}
    (schedule : Schedule fanout) (lookup : Lookup) :
    (sources.lookInTurns schedule lookup).Uniform :=
  sources.steps_uniform.look_in_turns uniform_composable schedule lookup

/-- Lookups keep nothing that a later one could show. After any two histories, whatever the worlds
were in which they took place, whatever failed in them and whatever turns they took, the next lookup
in one and the same world comes to the same and asks for the same. -/
theorem lookups_keep_no_state (checksums : Checksums) :
    (∀ (first second : List (World × Lookup)) (world : World) (lookup : Lookup),
      ((world.sources checksums).look lookup).ActsAlike
        (World.sessionAfter checksums .start first)
        (World.sessionAfter checksums .start second)) ∧
    ∀ (fanout : Nat) (first second : List (Visit fanout)) (next : Visit fanout),
      (next.run checksums).ActsAlike
        (Visit.sessionAfter checksums .start first)
        (Visit.sessionAfter checksums .start second) := by
  refine ⟨fun first second world lookup => ?_, fun fanout first second next => ?_⟩
  · rw [← (world.sources checksums).look_in_order Nat.one_pos]
    exact ((world.sources checksums).look_in_turns_uniform _ lookup).acts_alike _ _
  · exact ((next.world.sources checksums).look_in_turns_uniform _ next.lookup).acts_alike _ _

end BlockExplorer
