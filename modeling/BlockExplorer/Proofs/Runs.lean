import BlockExplorer.Node.Question
import BlockExplorer.Store.Fetch

/-!
What a run comes to whatever the session is in which it starts. The counts and the accesses of a
session are only ever written by the steps below, so the result of a step can be named without the
session, and what a run finds tells how the steps before it went. Two more predicates bound what a
run does: it asks the node nothing, or makes allowed accesses only. Runs follow one another in the
session that each leaves (`sessionAfter`).
-/

namespace BlockExplorer

namespace Explore

variable {α β : Type}

/-- The run comes to the same result in every session. -/
def Yields (run : Explore α) (result : Except Failure α) : Prop :=
  ∀ session, (run.outcome session).1 = result

/-- The run comes to the content in some session. -/
def Finds (run : Explore α) (content : α) : Prop :=
  ∃ session after, run.outcome session = (.ok content, after)

/-- The run leaves the number of requests to the node, and those made so far, as they are. -/
def AsksNoNode (run : Explore α) : Prop :=
  ∀ session, (run.outcome session).2.requests = session.requests ∧
    (run.outcome session).2.epochRequests = session.epochRequests

/-- The accesses made so far stay as they are, and those that the run makes are allowed. -/
def Sends (run : Explore α) (allowed : Access → Prop) : Prop :=
  ∀ session, ∃ made, (run.outcome session).2.accesses = session.accesses ++ made ∧
    ∀ access ∈ made, allowed access

theorem ext_outcome {run other : Explore α}
    (same : ∀ session, run.outcome session = other.outcome session) : run = other := by
  funext session
  exact same session

theorem outcome_bind_eq_ok_iff {run : Explore α} {next : α → Explore β} {session after : Session}
    {content : β} :
    (run >>= next).outcome session = (.ok content, after) ↔
      ∃ found between, run.outcome session = (.ok found, between) ∧
        (next found).outcome between = (.ok content, after) := by
  rw [outcome_bind]
  rcases run.outcome session with ⟨result, between⟩
  cases result with
  | error failure => simp
  | ok found =>
      constructor
      · intro second
        exact ⟨found, between, rfl, second⟩
      · rintro ⟨_, _, first, second⟩
        cases first
        exact second

theorem finds_bind {run : Explore α} {next : α → Explore β} {content : β}
    (found : (run >>= next).Finds content) :
    ∃ middle, run.Finds middle ∧ (next middle).Finds content := by
  obtain ⟨session, after, outcome⟩ := found
  obtain ⟨middle, between, first, second⟩ := outcome_bind_eq_ok_iff.mp outcome
  exact ⟨middle, ⟨session, between, first⟩, between, after, second⟩

theorem eq_of_finds_pure {content found : α} (finds : (pure content : Explore α).Finds found) :
    found = content := by
  obtain ⟨session, after, outcome⟩ := finds
  cases outcome
  rfl

theorem eq_ok_of_finds_of_except {result : Except Failure α} {content : α}
    (found : (ofExcept result).Finds content) : result = .ok content := by
  obtain ⟨session, after, outcome⟩ := found
  rw [outcome_of_except] at outcome
  exact (Prod.mk.inj outcome).1

theorem Yields.unique {run : Explore α} {first second : Except Failure α}
    (left : run.Yields first) (right : run.Yields second) : first = second :=
  (left Session.start).symm.trans (right Session.start)

theorem Yields.finds {run : Explore α} {content : α} (yields : run.Yields (.ok content)) :
    run.Finds content :=
  ⟨.start, (run.outcome .start).2, Prod.ext (yields .start) rfl⟩

theorem Yields.eq_ok_of_finds {run : Explore α} {result : Except Failure α} {content : α}
    (yields : run.Yields result) (found : run.Finds content) : result = .ok content := by
  obtain ⟨session, after, outcome⟩ := found
  have same := yields session
  rw [outcome] at same
  exact same.symm

theorem yields_pure (content : α) : (pure content : Explore α).Yields (.ok content) :=
  fun _ => rfl

theorem pure_yields_ok_iff {content found : α} :
    (pure content : Explore α).Yields (.ok found) ↔ found = content := by
  constructor
  · intro yields
    exact eq_of_finds_pure yields.finds
  · rintro rfl
    exact yields_pure found

theorem yields_of_except (result : Except Failure α) : (ofExcept result).Yields result := by
  intro session
  rw [outcome_of_except]

theorem yields_count_decode_failure : countDecodeFailure.Yields (.ok ()) :=
  fun _ => rfl

theorem Yields.bind_ok {run : Explore α} {next : α → Explore β} {content : α}
    {result : Except Failure β} (first : run.Yields (.ok content))
    (second : (next content).Yields result) : (run >>= next).Yields result := by
  intro session
  have head := first session
  rw [outcome_bind]
  cases equation : run.outcome session with
  | mk found after =>
      rw [equation] at head
      subst head
      exact second after

theorem Yields.bind_error {run : Explore α} {next : α → Explore β} {failure : Failure}
    (first : run.Yields (.error failure)) : (run >>= next).Yields (.error failure) := by
  intro session
  have head := first session
  rw [outcome_bind]
  cases equation : run.outcome session with
  | mk found after =>
      rw [equation] at head
      subst head
      rfl

theorem Yields.bind {run : Explore α} {next : α → Explore β} {first : Except Failure α}
    {second : α → Except Failure β} (head : run.Yields first)
    (tail : ∀ content, first = .ok content → (next content).Yields (second content)) :
    (run >>= next).Yields (first.bind second) := by
  cases first with
  | ok content => exact head.bind_ok (tail content rfl)
  | error failure => exact head.bind_error

theorem Yields.bind_map {run : Explore α} {next : α → Explore β} {first : Except Failure α}
    {f : α → β} (head : run.Yields first)
    (tail : ∀ content, (next content).Yields (.ok (f content))) :
    (run >>= next).Yields (first.map f) := by
  cases first with
  | ok content => exact head.bind_ok (tail content)
  | error failure => exact head.bind_error

theorem Yields.map {run : Explore α} {result : Except Failure α} (head : run.Yields result)
    (f : α → β) : (f <$> run).Yields (result.map f) := by
  intro session
  rw [outcome_map, head session]

theorem asks_no_node_pure (content : α) : (pure content : Explore α).AsksNoNode :=
  fun _ => ⟨rfl, rfl⟩

theorem asks_no_node_of_except (result : Except Failure α) : (ofExcept result).AsksNoNode := by
  intro session
  rw [outcome_of_except]
  exact ⟨rfl, rfl⟩

theorem asks_no_node_count_decode_failure : countDecodeFailure.AsksNoNode :=
  fun _ => ⟨rfl, rfl⟩

theorem AsksNoNode.bind {run : Explore α} {next : α → Explore β} (first : run.AsksNoNode)
    (second : ∀ content, (next content).AsksNoNode) : (run >>= next).AsksNoNode := by
  intro session
  have head := first session
  rw [outcome_bind]
  cases equation : run.outcome session with
  | mk found after =>
      rw [equation] at head
      cases found with
      | error failure => exact head
      | ok content =>
          have tail := second content after
          exact ⟨tail.1.trans head.1, tail.2.trans head.2⟩

variable {allowed : Access → Prop}

theorem sends_of_kept {run : Explore α}
    (kept : ∀ session, (run.outcome session).2.accesses = session.accesses) :
    run.Sends allowed := by
  intro session
  refine ⟨[], ?_, fun access member => (by cases member)⟩
  rw [kept, List.append_nil]

theorem sends_pure (content : α) : (pure content : Explore α).Sends allowed :=
  sends_of_kept fun _ => rfl

theorem sends_of_except (result : Except Failure α) : (ofExcept result).Sends allowed := by
  apply sends_of_kept
  intro session
  rw [outcome_of_except]

theorem sends_fail (failure : Failure) : (fail failure : Explore α).Sends allowed :=
  sends_of_kept fun _ => rfl

theorem sends_count_decode_failure : countDecodeFailure.Sends allowed :=
  sends_of_kept fun _ => rfl

theorem Sends.bind {run : Explore α} {next : α → Explore β} (first : run.Sends allowed)
    (second : ∀ content, (next content).Sends allowed) : (run >>= next).Sends allowed := by
  intro session
  obtain ⟨made, grown, fine⟩ := first session
  rw [outcome_bind]
  rcases equation : run.outcome session with ⟨result, between⟩
  rw [equation] at grown
  cases result with
  | error failure => exact ⟨made, grown, fine⟩
  | ok content =>
      obtain ⟨more, later, alsoFine⟩ := second content between
      refine ⟨made ++ more, ?_, ?_⟩
      · rw [later, grown, List.append_assoc]
      · intro access member
        rcases List.mem_append.mp member with early | late
        · exact fine access early
        · exact alsoFine access late

theorem Sends.mono {run : Explore α} {weaker : Access → Prop} (sends : run.Sends allowed)
    (follows : ∀ access, allowed access → weaker access) : run.Sends weaker := by
  intro session
  obtain ⟨made, grown, fine⟩ := sends session
  exact ⟨made, grown, fun access member => follows access (fine access member)⟩

theorem Sends.only {run : Explore α} {access : Access} (sends : run.Sends (· = access))
    (fine : allowed access) : run.Sends allowed := by
  apply sends.mono
  intro other same
  rw [same]
  exact fine

def sessionAfter {Step : Type} (run : Step → Explore α) (session : Session) : List Step → Session
  | [] => session
  | step :: rest => sessionAfter run ((run step).outcome session).2 rest

theorem session_after_append {Step : Type} (run : Step → Explore α) (session : Session)
    (before after : List Step) :
    sessionAfter run session (before ++ after) =
      sessionAfter run (sessionAfter run session before) after := by
  induction before generalizing session with
  | nil => rfl
  | cons step rest induction => exact induction _

end Explore

namespace Store

open Explore

theorem ask_yields (connection : Connection) (query : Query) :
    (ask (some connection) query).Yields
      ((connection.reply query).mapError (failureOf .queryFailed)) := by
  intro session
  rw [outcome_ask_some]

theorem ask_one_yields (connection : Connection) (query : Query) :
    (askOne (some connection) query).Yields
      (((connection.reply query).mapError (failureOf .queryFailed)).map fun rows =>
        rows.head?.filter fun row => !row.isEmpty) :=
  (ask_yields connection query).bind_map fun _ => yields_pure _

theorem latest_block_yields {connection : Connection} {asked : Except Failure (Option Row)}
    (asks : (askOne (some connection) .latestBlock).Yields asked) :
    (latestBlock (some connection)).Yields
      (asked.bind fun row => row.elim (.error (.store .empty)) readBlock) := by
  apply asks.bind
  intro row _
  cases row with
  | none => exact yields_of_except (.error (.store .empty))
  | some row => exact yields_of_except (readBlock row)

theorem latest_blocks_yields (connection : Connection) (count : Int) (offset : Option Int) :
    (latestBlocks (some connection) count offset).Yields
      (((connection.reply (.blockPage count (offset.getD 0))).mapError
        (failureOf .queryFailed)).bind (readAll readBlock)) :=
  (ask_yields connection _).bind fun _ _ => yields_of_except _

theorem reply_of_finds {connection : Connection} {query : Query} {rows : List Row}
    (found : (ask (some connection) query).Finds rows) : connection.reply query = .ok rows := by
  obtain ⟨session, after, outcome⟩ := found
  rw [outcome_ask_some] at outcome
  cases answered : connection.reply query with
  | error fault =>
      rw [answered] at outcome
      cases outcome
  | ok others =>
      rw [answered] at outcome
      rw [Except.ok.inj (Prod.mk.inj outcome).1]

theorem reply_of_finds_one {connection : Connection} {query : Query} {row? : Option Row}
    (found : (askOne (some connection) query).Finds row?) :
    ∃ rows, connection.reply query = .ok rows ∧ ∀ row ∈ row?, row ∈ rows.head? := by
  obtain ⟨rows, asked, shown⟩ := finds_bind found
  refine ⟨rows, reply_of_finds asked, fun row present => ?_⟩
  rw [eq_of_finds_pure shown] at present
  exact (Option.mem_filter_iff.mp present).1

theorem epoch_requests_record_query (query : Query) (session : Session) :
    (session.record (.query query)).epochRequests = session.epochRequests := by
  simp [Session.record, Session.epochRequests]

theorem ask_asks_no_node (connection : Option Connection) (query : Query) :
    (ask connection query).AsksNoNode := by
  intro session
  cases connection with
  | none => exact ⟨rfl, rfl⟩
  | some connection =>
      rw [outcome_ask_some]
      split
      · exact ⟨rfl, epoch_requests_record_query query session⟩
      · exact ⟨rfl, rfl⟩

theorem ask_one_asks_no_node (connection : Option Connection) (query : Query) :
    (askOne connection query).AsksNoNode :=
  (ask_asks_no_node connection query).bind fun _ => asks_no_node_pure _

theorem ask_sends (connection : Option Connection) (query : Query) :
    (ask connection query).Sends (· = .query query) := by
  cases connection with
  | none => exact sends_fail _
  | some connection =>
      intro session
      rw [outcome_ask_some]
      by_cases acquired : connection.isAcquired query
      · rw [if_pos acquired]
        exact ⟨[.query query], rfl, fun access member => List.mem_singleton.mp member⟩
      · rw [if_neg acquired]
        exact ⟨[], (List.append_nil _).symm, fun access member => nomatch member⟩

theorem ask_one_sends (connection : Option Connection) (query : Query) :
    (askOne connection query).Sends (· = .query query) :=
  (ask_sends connection query).bind fun _ => sends_pure _

end Store

namespace Node

def epochOf (node : Node) (height : Int) : Except Failure Nat :=
  match Numeral.Writable.ofInt? height with
  | some written => (node.epochAt height).epoch written
  | none => .error .longInteger

theorem epoch_of_val (node : Node) (height : Numeral.Writable) :
    node.epochOf height.val = (node.epochAt height.val).epoch height := by
  rw [epochOf, Numeral.Writable.of_int?_val]

theorem epoch_of_of_long {node : Node} {height : Int} (long : Numeral.isWritable height = false) :
    node.epochOf height = .error .longInteger := by
  rw [epochOf, Numeral.Writable.of_int?_eq_none_iff.mpr long]

theorem epoch_yields (node : Node) (height : Int) :
    (node.epoch height).Yields (node.epochOf height) := by
  intro session
  rcases Numeral.Writable.cases height with ⟨written, rfl⟩ | long
  · rw [outcome_epoch, epoch_of_val]
  · rw [outcome_epoch_of_long node long, epoch_of_of_long long]

theorem epoch_yields_iff {node : Node} {height : Int} {result : Except Failure Nat} :
    (node.epoch height).Yields result ↔ node.epochOf height = result :=
  ⟨(node.epoch_yields height).unique, fun same => same ▸ node.epoch_yields height⟩

theorem epoch_congr {node other : Node} {height : Int}
    (same : node.epochAt height = other.epochAt height) :
    node.epoch height = other.epoch height := by
  rw [epoch, epoch, same]

theorem epoch_sends (node : Node) (height : Int) :
    (node.epoch height).Sends fun access =>
      ∃ id written sent, written.val = height ∧ access = .epoch ⟨id, written⟩ sent := by
  intro session
  rcases Numeral.Writable.cases height with ⟨written, rfl⟩ | long
  · refine ⟨_, congrArg (fun after => after.2.accesses) (node.outcome_epoch written session), ?_⟩
    intro access member
    exact ⟨_, written, _, rfl, List.mem_singleton.mp member⟩
  · refine ⟨[], ?_, fun access member => nomatch member⟩
    rw [node.outcome_epoch_of_long long, List.append_nil]

end Node

end BlockExplorer
