import BlockExplorer.Program.Settings
import BlockExplorer.Store.Fetch

/-!
The life of a pool of connections. Connecting opens it, disconnecting closes it, and nothing else
changes it. Every call reports what it asked of the database.
-/

namespace BlockExplorer

/-- How a pool is opened: where, with how many connections, and how long a query may take. -/
structure PoolOptions where
  url : Text
  minSize : Value
  maxSize : Value
  commandTimeout : Value
  deriving Repr

namespace PoolOptions

def ofUrl (url : Text) : PoolOptions where
  url
  minSize := .int 2
  maxSize := .int 10
  commandTimeout := .float Settings.defaultCommandTimeout

def ofSettings (settings : Settings) : PoolOptions where
  url := settings.databaseUrl
  minSize := .int settings.poolMinSize
  maxSize := .int settings.poolMaxSize
  commandTimeout := .float settings.commandTimeout

end PoolOptions

/-- What is outside: whether a pool can be opened and closed, and what its connections do. -/
structure Server where
  accept : PoolOptions → Except DatabaseFault Unit
  close : Except DatabaseFault Unit
  connection : Connection

namespace Pool

inductive Reading where
  | isConnected
  | blockByHash (hash : Bytes)
  | blockById (id : Bytes)
  | blockByHeight (height : Int)
  | latestBlock
  | latestBlocks (count : Int) (offset : Option Int)
  | txHashEntries (blockId : Bytes)
  | txRecord (hash : Bytes)
  | one (statement : String) (arguments : List Value)
  | all (statement : String) (arguments : List Value)
  deriving Repr

inductive Call where
  | connect
  | disconnect
  | read (reading : Reading)
  deriving Repr

inductive Answer where
  | done
  | connected (value : Bool)
  | block (found : Option StoredBlock)
  | blocks (found : List StoredBlock)
  | entries (found : List IndexEntry)
  | record (found : Option StoredTx)
  | row (found : Option Row)
  | rows (found : List Row)
  deriving Repr

/-- What a call gives, whether there is a pool after it, and what it sent: the opening of a pool or
queries. -/
structure Outcome where
  result : Except Failure Answer
  isOpen : Bool
  opened : Option PoolOptions
  queries : List Query

/-- Whether the database answers. A fault of the store means that it does not. -/
def isConnected (connection : Option Connection) : Explore Bool :=
  match connection with
  | none => return false
  | some connection => do
      Store.recordSent connection .ping
      match connection.reply .ping with
      | .ok _ => return true
      | .error fault =>
          if fault.kind.isStoreFault then return false else Explore.fail (.database fault)

def read (connection : Option Connection) : Reading → Explore Answer
  | .isConnected => .connected <$> isConnected connection
  | .blockByHash hash => .block <$> Store.blockByHash connection hash
  | .blockById id => .block <$> Store.blockById connection id
  | .blockByHeight height => .block <$> Store.blockByHeight connection height
  | .latestBlock => (fun row => .block (some row)) <$> Store.latestBlock connection
  | .latestBlocks count offset => .blocks <$> Store.latestBlocks connection count offset
  | .txHashEntries blockId => .entries <$> Store.txHashEntries connection blockId
  | .txRecord hash => .record <$> Store.txRecord connection hash
  | .one statement arguments => .row <$> Store.askOne connection (.one statement arguments)
  | .all statement arguments => .rows <$> Store.ask connection (.all statement arguments)

/-- Opens a pool. If that fails everything stays as it was. -/
def connect (options : PoolOptions) (server : Server) (isOpen : Bool) : Outcome :=
  match server.accept options with
  | .ok () => { result := .ok .done, isOpen := true, opened := some options, queries := [] }
  | .error fault =>
      { result := .error (Store.failureOf .connectFailed fault), isOpen, opened := some options
        queries := [] }

/-- Closes the pool, if there is one. If its connections do not close it stays, and their fault is
passed on as it is. -/
def disconnect (server : Server) (isOpen : Bool) : Outcome :=
  match isOpen, server.close with
  | true, .error fault =>
      { result := .error (.database fault), isOpen := true, opened := none, queries := [] }
  | _, _ => { result := .ok .done, isOpen := false, opened := none, queries := [] }

def perform (options : PoolOptions) (server : Server) (isOpen : Bool) : Call → Outcome
  | .connect => connect options server isOpen
  | .disconnect => disconnect server isOpen
  | .read reading =>
      let connection := if isOpen then some server.connection else none
      let (result, session) := (read connection reading).outcome Session.start
      { result, isOpen, opened := none, queries := session.queries }

end Pool

end BlockExplorer
