import BlockExplorer.Node.Reply
import BlockExplorer.Store.Query

/-!
What a run of the explorer does: it puts queries to the database and asks the node, and either comes
to a result or fails. The session keeps count of the records that could not be decoded and of the
requests to the node, and remembers every access in order.
-/

namespace BlockExplorer

/-- A query that is put to the database, or a request that is handed over for the node, which goes
out unless its address makes no sense. -/
inductive Access where
  | query (query : Query)
  | epoch (request : EpochRequest) (sent : Bool)
  | health (sent : Bool)
  deriving Repr

structure Session where
  decodeFailures : Nat
  requests : Nat
  accesses : List Access
  deriving Repr

namespace Session

def start : Session := ⟨0, 0, []⟩

def record (access : Access) (session : Session) : Session :=
  { session with accesses := session.accesses ++ [access] }

def forget (session : Session) : Session := { session with accesses := [] }

def queries (session : Session) : List Query :=
  session.accesses.filterMap fun
    | .query query => some query
    | _ => none

def epochRequests (session : Session) : List EpochRequest :=
  session.accesses.filterMap fun
    | .epoch request true => some request
    | _ => none

end Session

/-- A run that may fail. What it has done by then stays in the session. -/
abbrev Explore := ExceptT Failure (StateM Session)

namespace Explore

variable {α β : Type}

def outcome (run : Explore α) (session : Session) : Except Failure α × Session := run.run session

def fail (failure : Failure) : Explore α := throw failure

def ofExcept : Except Failure α → Explore α
  | .ok content => pure content
  | .error failure => fail failure

def record (access : Access) : Explore Unit := modify (Session.record access)

def written (n : Int) : Explore Numeral.Writable :=
  match Numeral.Writable.ofInt? n with
  | some written => pure written
  | none => fail .longInteger

def refuse (fault : Numeral.Writable → ClientFault) (n : Int) : Explore α :=
  fail (.naming n fun n => .client (fault n))

def countDecodeFailure : Explore Unit :=
  modify fun session => { session with decodeFailures := session.decodeFailures + 1 }

def nextRequest : Explore Nat := do
  let session ← get
  let id := session.requests + 1
  set { session with requests := id }
  return id

@[simp] theorem outcome_pure (content : α) (session : Session) :
    (pure content : Explore α).outcome session = (.ok content, session) := rfl

@[simp] theorem outcome_fail (failure : Failure) (session : Session) :
    (fail failure : Explore α).outcome session = (.error failure, session) := rfl

/-- The next step starts from the session that the first one leaves, unless that one fails. -/
theorem outcome_bind (run : Explore α) (next : α → Explore β) (session : Session) :
    (run >>= next).outcome session =
      match run.outcome session with
      | (.ok content, after) => (next content).outcome after
      | (.error failure, after) => (.error failure, after) := by
  simp only [outcome, ExceptT.run, bind, ExceptT.bind, ExceptT.mk, StateT.bind]
  cases run session with
  | mk result after => cases result <;> rfl

theorem outcome_map (run : Explore α) (f : α → β) (session : Session) :
    (f <$> run).outcome session = ((run.outcome session).1.map f, (run.outcome session).2) := by
  rw [map_eq_pure_bind, outcome_bind]
  cases run.outcome session with
  | mk result after => cases result <;> rfl

@[simp] theorem outcome_record (access : Access) (session : Session) :
    (record access).outcome session = (.ok (), session.record access) := rfl

@[simp] theorem outcome_of_except (result : Except Failure α) (session : Session) :
    (ofExcept result).outcome session = (result, session) := by
  cases result <;> rfl

@[simp] theorem outcome_count_decode_failure (session : Session) :
    countDecodeFailure.outcome session =
      (.ok (), { session with decodeFailures := session.decodeFailures + 1 }) := rfl

@[simp] theorem outcome_next_request (session : Session) :
    nextRequest.outcome session =
      (.ok (session.requests + 1), { session with requests := session.requests + 1 }) := rfl

end Explore

end BlockExplorer
