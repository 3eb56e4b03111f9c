import BlockExplorer.Failure
import BlockExplorer.Store.Column

/-!
The questions that are put to the database, with their text and arguments, and the connections that
answer them with rows or with a fault.
-/

namespace BlockExplorer

/-- How much of an answer is wanted: one row, all rows, or one value. -/
inductive Query.Method where
  | row
  | rows
  | value
  deriving DecidableEq, Repr

inductive Query where
  | blockByHash (hash : Bytes)
  | blockByHeight (height : Int)
  | latestBlock
  | blockPage (count offset : Int)
  | txHashes (blockId : Bytes)
  | transaction (hash : Bytes)
  | ping
  | one (statement : String) (arguments : List Value)
  | all (statement : String) (arguments : List Value)
  deriving Repr

namespace Query

def method : Query → Method
  | .blockPage .. => .rows
  | .txHashes _ => .rows
  | .all .. => .rows
  | .ping => .value
  | _ => .row

def blockColumns : String := ", ".intercalate (BlockColumn.all.map BlockColumn.name)

def statement : Query → String
  | .blockByHash _ => "SELECT " ++ blockColumns ++ " FROM blocks WHERE block_id = $1;"
  | .blockByHeight _ => "SELECT " ++ blockColumns ++ " FROM blocks WHERE header_height = $1;"
  | .latestBlock => "SELECT " ++ blockColumns ++ " FROM blocks ORDER BY header_height DESC LIMIT 1;"
  | .blockPage .. =>
      "SELECT " ++ blockColumns ++ " FROM blocks ORDER BY header_height DESC LIMIT $1 OFFSET $2;"
  | .txHashes _ =>
      "SELECT hash, tx_type FROM tx_hashes WHERE block_id = $1 ORDER BY tx_index ASC;"
  | .transaction _ =>
      "SELECT hash, block_id, tx_type, code, data FROM transactions WHERE hash = $1;"
  | .ping => "SELECT 1"
  | .one statement _ => statement
  | .all statement _ => statement

def arguments : Query → List Value
  | .blockByHash hash => [.bytes hash]
  | .blockByHeight height => [.int height]
  | .latestBlock => []
  | .blockPage count offset => [.int count, .int offset]
  | .txHashes blockId => [.bytes blockId]
  | .transaction hash => [.bytes hash]
  | .ping => []
  | .one _ arguments => arguments
  | .all _ arguments => arguments

def table? : Query → Option Table
  | .blockByHash _ => some .blocks
  | .blockByHeight _ => some .blocks
  | .latestBlock => some .blocks
  | .blockPage .. => some .blocks
  | .txHashes _ => some .txHashes
  | .transaction _ => some .transactions
  | _ => none

end Query

/-- What the connections of a pool do. One is acquired for each query, answers it and is released.
Where one row is wanted, the first of the answer counts. -/
structure Connection where
  acquire : Query → Except DatabaseFault Unit
  answer : Query → Except DatabaseFault (List Row)
  release : Query → Except DatabaseFault Unit

namespace Connection

def isAcquired (connection : Connection) (query : Query) : Bool := (connection.acquire query).isOk

/-- What comes of a query. A fault of the release hides the answer, be it rows or another fault. -/
def reply (connection : Connection) (query : Query) : Except DatabaseFault (List Row) :=
  match connection.acquire query, connection.release query with
  | .error fault, _ => .error fault
  | .ok (), .error fault => .error fault
  | .ok (), .ok () => connection.answer query

theorem reply_eq_ok_iff {connection : Connection} {query : Query} {rows : List Row} :
    connection.reply query = .ok rows ↔ connection.acquire query = .ok () ∧
      connection.answer query = .ok rows ∧ connection.release query = .ok () := by
  rw [reply]
  cases connection.acquire query <;> cases connection.release query <;> simp

theorem is_acquired_iff {connection : Connection} {query : Query} :
    connection.isAcquired query = true ↔ connection.acquire query = .ok () := by
  rw [isAcquired]
  cases connection.acquire query <;> simp [Except.isOk, Except.toBool]

/-- Connections that are acquired and released without fault. -/
def ofAnswer (answer : Query → Except DatabaseFault (List Row)) : Connection where
  acquire _ := .ok ()
  answer
  release _ := .ok ()

end Connection

end BlockExplorer
