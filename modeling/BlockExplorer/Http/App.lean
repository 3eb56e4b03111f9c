import BlockExplorer.Http.Cors
import BlockExplorer.Http.Location
import BlockExplorer.Http.Route
import BlockExplorer.Program.Launch
import BlockExplorer.Report
import BlockExplorer.Store.Pool

/-!
The application: how it starts, what it answers, and what it closes in the end. A result is written
from a copy that has been checked against the form of the response. An error of the explorer is
reported with its code; any other failure leaves the application after a response that says no more
than that there was one.
-/

namespace BlockExplorer

inductive Resource where
  | pool
  | client
  deriving DecidableEq, Repr

/-- What the application works with once it has started. The store is its own if it has opened a
pool, and the node if it asks it under an address. -/
structure Pipeline where
  checksums : Checksums
  ownsStore : Bool
  nodeAddress : Option Text
  deriving DecidableEq, Repr

def Pipeline.reach (pipeline : Pipeline) (node : Node) : Node :=
  match pipeline.nodeAddress with
  | none => node
  | some address => node.reachedAt address

structure App where
  settings : Settings
  pipeline : Option Pipeline
  deriving DecidableEq, Repr

structure Given where
  store : Bool
  node : Bool
  checksums : Option Checksums
  deriving DecidableEq, Repr

structure Served where
  response : Response
  escaped : Option Failure
  deriving Repr

namespace App

def create (environment : Environment) : Except Failure App :=
  match Settings.ofEnvironment environment with
  | .ok settings => .ok ⟨settings, none⟩
  | .error fault => .error (.configuration fault)

def loadChecksums (settings : Settings) (given : Given) (file : ChecksumFile) :
    Except Failure Checksums :=
  match given.checksums with
  | some checksums => .ok checksums
  | none => Checksums.load settings.checksumsPath file

def openStore (settings : Settings) (given : Given) (server : Server) : Except Failure Unit :=
  if given.store then .ok ()
  else (Pool.connect (.ofSettings settings) server false).result.map fun _ => ()

def openNode (settings : Settings) (given : Given) : Except Failure (Option Text) :=
  if given.node then .ok none
  else
    match Address.ofText settings.nodeAddress with
    | .ok address => .ok (some address)
    | .error fault => .error (.badAddress fault)

def checkFanout (fanout : Int) : Except Failure Unit :=
  if fanout < 1 then .error .noFanout else .ok ()

/-- Starts the application: first the checksums, then the store, then the node, and last what asks
them. -/
def start (app : App) (given : Given) (file : ChecksumFile) (server : Server) :
    Except Failure App := do
  let checksums ← loadChecksums app.settings given file
  openStore app.settings given server
  let nodeAddress ← openNode app.settings given
  checkFanout app.settings.fanout
  return { app with pipeline := some ⟨checksums, !given.store, nodeAddress⟩ }

def opened (app : App) : List Resource :=
  match app.pipeline with
  | none => []
  | some pipeline =>
      (if pipeline.ownsStore then [.pool] else []) ++
        (if pipeline.nodeAddress.isSome then [.client] else [])

def closed (app : App) : List Resource := app.opened

def form : Found → Checked Value
  | .block none => .valid .null
  | .block (some block) => (fun block => block.settled.toValue) <$> Block.ofValue block.toValue
  | .latest found => (fun found => found.settled.toValue) <$> Latest.ofValue found.toValue

def writeValue (value : Value) : Except Failure Value :=
  if value.isWritable then .ok value else .error (.unwritable .found)

def write (found : Found) : Except Failure Value :=
  match form found with
  | .valid value => writeValue value
  | .invalid errors => .error (.invalidFields errors)

def lookUp (sources : Sources) (lookup : Lookup) : Explore Response := do
  let found ← sources.look lookup
  let value ← Explore.ofExcept (write found)
  return .document 200 value

/-- Whether the parts of the application are well. A part that it has not made itself cannot be
asked. -/
def health (app : App) (connection : Connection) (node : Node) : Explore Response := do
  let ownsStore := (app.pipeline.map Pipeline.ownsStore).getD false
  let isConnected ← if ownsStore then Pool.isConnected (some connection) else pure true
  let isReachable ←
    match app.pipeline.bind Pipeline.nodeAddress with
    | some address => (node.reachedAt address).isReachable
    | none => pure true
  let isHealthy := app.pipeline.isSome && isConnected && isReachable
  return .document (if isHealthy then 200 else 503)
    (.named
      [("status", .word (if isHealthy then "healthy" else "degraded")),
        ("components", .named
          [("database", .word (if isConnected then "connected" else "disconnected")),
            ("node", .word (if isReachable then "reachable" else "unreachable"))])])

/-- Answers a request to a known path. Before the start there is nothing to look up blocks with. -/
def visit (app : App) (connection : Connection) (node : Node) (query : Text) (route : Route) :
    Explore Response :=
  match route.lookup? query with
  | none => app.health connection node
  | some asked =>
      match app.pipeline with
      | none => Explore.fail .notStarted
      | some pipeline =>
          match asked with
          | .error errors => return .unprocessable errors
          | .ok lookup => lookUp ⟨some connection, pipeline.reach node, pipeline.checksums⟩ lookup

def handle (app : App) (connection : Connection) (node : Node) (request : Request) :
    Explore Response :=
  match Route.ofPath? request.path with
  | some route =>
      if request.method = "GET" then app.visit connection node request.query route
      else return .methodNotAllowed
  | none =>
      match Route.redirect? request.path with
      | some path =>
          if Text.isUnicode path then return .redirect request path
          else Explore.fail (.unwritable .other)
      | none => return .notFound

def report (error : BoundaryFault) : Response :=
  let report := Report.ofError error
  .document report.status report.toValue

def send (origins : List Text) (request : Request) (response : Response) : Served :=
  if response.isWritable then ⟨Cors.decorate origins request response, none⟩
  else ⟨.internalError, some (.unwritable .other)⟩

def serve (origins : List Text) (request : Request) : Except Failure Response → Served
  | .ok response => send origins request response
  | .error (.boundary error) => send origins request (report error)
  | .error failure => ⟨.internalError, some failure⟩

def respond (app : App) (connection : Connection) (node : Node) (request : Request)
    (session : Session) : Served × Session :=
  let origins := app.settings.corsOrigins
  match Cors.preflight? origins request with
  | some response => (⟨response, none⟩, session)
  | none =>
      let (result, after) := (app.handle connection node request).outcome session
      (serve origins request result, after)

end App

end BlockExplorer
