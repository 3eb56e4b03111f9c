import BlockExplorer.Session

/-!
Reading the store through a connection, if there is one. Faults of the database are faults of the
store, and so is a row that cannot be read; a row without any column counts as no row.
-/

namespace BlockExplorer.Store

def failureOf (heading : Text → StoreFault) (fault : DatabaseFault) : Failure :=
  if fault.kind.isStoreFault then .store (heading fault.text) else .database fault

/-- Remembers a query, if there is a connection to send it by. -/
def recordSent (connection : Connection) (query : Query) : Explore Unit :=
  if connection.isAcquired query then Explore.record (.query query) else pure ()

theorem outcome_record_sent (connection : Connection) (query : Query) (session : Session) :
    (recordSent connection query).outcome session =
      (.ok (), if connection.isAcquired query then session.record (.query query) else session) := by
  rw [recordSent]
  split <;> simp

def ask (connection : Option Connection) (query : Query) : Explore (List Row) :=
  match connection with
  | none => Explore.fail (.store .notConnected)
  | some connection => do
      recordSent connection query
      Explore.ofExcept ((connection.reply query).mapError (failureOf .queryFailed))

/-- Without a connection nothing is asked. -/
@[simp] theorem outcome_ask_none (query : Query) (session : Session) :
    (ask none query).outcome session = (.error (.store .notConnected), session) := rfl

/-- A query that is sent is remembered whether it is answered or not. -/
theorem outcome_ask_some (connection : Connection) (query : Query) (session : Session) :
    (ask (some connection) query).outcome session =
      ((connection.reply query).mapError (failureOf .queryFailed),
        if connection.isAcquired query then session.record (.query query) else session) := by
  simp only [ask, Explore.outcome_bind, outcome_record_sent, Explore.outcome_of_except]

/-- The first row that answers a query, unless it is empty. -/
def askOne (connection : Option Connection) (query : Query) : Explore (Option Row) := do
  let rows ← ask connection query
  return rows.head?.filter fun row => !row.isEmpty

/-- What a row of a table holds. Invalid fields are a fault of the store. -/
def read {α : Type} (table : Table) : Except RowFault α → Except Failure α
  | .ok content => .ok content
  | .error (.missingColumn name) => .error (.missingColumn name)
  | .error (.invalid errors) => .error (.store (.malformedRow table errors.length))

def readBlock (row : Row) : Except Failure StoredBlock := read .blocks (StoredBlock.ofRow row)

def readEntry (row : Row) : Except Failure IndexEntry :=
  match Value.member? "hash" row, Value.member? "tx_type" row with
  | none, _ => .error (.missingColumn "hash")
  | _, none => .error (.missingColumn "tx_type")
  | some _, some _ => read .txHashes (IndexEntry.check fun name => Value.member? name row).toRow

def readRecord (row : Row) : Except Failure StoredTx :=
  read .transactions (StoredTx.check fun name => Value.member? name row).toRow

def readSome {α : Type} (reader : Row → Except Failure α) : Option Row → Except Failure (Option α)
  | none => .ok none
  | some row => (reader row).map some

/-- What each of some rows holds. The first row that cannot be read decides the fault. -/
def readAll {α : Type} (reader : Row → Except Failure α) : List Row → Except Failure (List α)
  | [] => .ok []
  | row :: rest => do
      let first ← reader row
      let others ← readAll reader rest
      .ok (first :: others)

def blockByHash (connection : Option Connection) (hash : Bytes) : Explore (Option StoredBlock) := do
  let row ← askOne connection (.blockByHash hash)
  Explore.ofExcept (readSome readBlock row)

/-- A block's hash is also its id. -/
def blockById (connection : Option Connection) (id : Bytes) : Explore (Option StoredBlock) :=
  blockByHash connection id

def blockByHeight (connection : Option Connection) (height : Int) :
    Explore (Option StoredBlock) := do
  let row ← askOne connection (.blockByHeight height)
  Explore.ofExcept (readSome readBlock row)

/-- The highest block. A store without blocks is at fault. -/
def latestBlock (connection : Option Connection) : Explore StoredBlock := do
  match ← askOne connection .latestBlock with
  | none => Explore.fail (.store .empty)
  | some row => Explore.ofExcept (readBlock row)

def latestBlocks (connection : Option Connection) (count : Int) (offset : Option Int) :
    Explore (List StoredBlock) := do
  let rows ← ask connection (.blockPage count (offset.getD 0))
  Explore.ofExcept (readAll readBlock rows)

def txHashEntries (connection : Option Connection) (blockId : Bytes) :
    Explore (List IndexEntry) := do
  let rows ← ask connection (.txHashes blockId)
  Explore.ofExcept (readAll readEntry rows)

def txRecord (connection : Option Connection) (hash : Bytes) : Explore (Option StoredTx) := do
  let row ← askOne connection (.transaction hash)
  Explore.ofExcept (readSome readRecord row)

end BlockExplorer.Store
