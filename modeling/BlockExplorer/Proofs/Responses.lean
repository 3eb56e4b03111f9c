import BlockExplorer.Http.App
import BlockExplorer.Proofs.WrittenForms
import BlockExplorer.Proofs.Retrieval

/-!
What a client is told of a lookup. The response carries what the lookup came to and nothing else:
what was found in its written form, or an error of the explorer by its code and message. The check
of what was found against the form of the response changes nothing. Where a text is not Unicode, or
an integer too long to be written, no response could carry it, and the client is told only that
there was a failure.
-/

namespace BlockExplorer

def Found.written : Found → Value
  | .block none => .null
  | .block (some found) => found.settled.toValue
  | .latest found => found.settled.toValue

def reportBody (code : String) (message : Text) : Value :=
  .named [("error", .named [("code", .word code), ("message", .text message)])]

def Pipeline.sources (pipeline : Pipeline) (connection : Connection) (node : Node) : Sources :=
  ⟨some connection, pipeline.reach node, pipeline.checksums⟩

inductive Request.AsksFor (request : Request) : Lookup → Prop
  | byHash {text : Text} (path : request.path = Text.ofString "/block/hash/" ++ text)
      (filled : text ≠ []) (single : Route.slash ∉ text) : AsksFor request (.byHashText text)
  | byHeight {text : Text} {height : Int}
      (path : request.path = Text.ofString "/block/height/" ++ text) (filled : text ≠ [])
      (single : Route.slash ∉ text) (accepted : Route.heightParameter.read text = .ok height) :
      AsksFor request (.byHeight height)
  | latest {count offset : Option Int} (path : request.path = Text.ofString "/block/last")
      (counted : Route.countParameter.readSome (QueryString.value? request.query "num") = .ok count)
      (shifted : Route.offsetParameter.readSome (QueryString.value? request.query "offset") =
        .ok offset) : AsksFor request (.latest count offset)

/-- The client gets this document with this status, and nothing goes wrong. -/
structure Served.Tells (served : Served) (status : Nat) (body : Value) : Prop where
  status : served.response.status = status
  content : served.response.content = .document body
  whole : served.escaped = none

/-- The client gets to know that there was a failure, and the failure leaves the application. -/
structure Served.Breaks (served : Served) (failure : Failure) : Prop where
  status : served.response.status = 500
  content : served.response.content = .text "Internal Server Error"
  escaped : served.escaped = some failure

theorem Served.Breaks.not_tells {served : Served} {failure : Failure}
    (breaks : served.Breaks failure) (status : Nat) (body : Value) : ¬served.Tells status body := by
  intro tells
  have escaped := breaks.escaped
  rw [tells.whole] at escaped
  cases escaped

namespace Route

theorem segment?_append {start : String} {text : Text} (filled : text ≠ [])
    (single : slash ∉ text) : segment? start (Text.ofString start ++ text) = some text := by
  have begins : Text.startsWith (Text.ofString start ++ text) (Text.ofString start) = true := by
    rw [Text.startsWith, List.isPrefixOf_iff_prefix]
    exact List.prefix_append _ _
  simp [segment?, begins, filled, single]

theorem of_path?_by_hash {text : Text} (filled : text ≠ []) (single : slash ∉ text) :
    ofPath? (Text.ofString "/block/hash/" ++ text) = some (.byHash text) := by
  rw [ofPath?, segment?_append filled single]

theorem of_path?_by_height {text : Text} (filled : text ≠ []) (single : slash ∉ text) :
    ofPath? (Text.ofString "/block/height/" ++ text) = some (.byHeight text) := by
  have other : segment? "/block/hash/" (Text.ofString "/block/height/" ++ text) = none := rfl
  rw [ofPath?, other, segment?_append filled single]

theorem of_path?_latest : ofPath? (Text.ofString "/block/last") = some .latest := rfl

end Route

theorem Request.AsksFor.route {request : Request} {lookup : Lookup}
    (asks : request.AsksFor lookup) :
    ∃ route, Route.ofPath? request.path = some route ∧
      route.lookup? request.query = some (.ok lookup) := by
  cases asks with
  | @byHash text path filled single =>
      exact ⟨.byHash text, path ▸ Route.of_path?_by_hash filled single, rfl⟩
  | @byHeight text height path filled single accepted =>
      refine ⟨.byHeight text, path ▸ Route.of_path?_by_height filled single, ?_⟩
      rw [Route.lookup?, accepted]
  | latest path counted shifted =>
      refine ⟨.latest, path ▸ Route.of_path?_latest, ?_⟩
      rw [Route.lookup?, Route.latestLookup, counted, shifted]

theorem Text.is_unicode_of_string (s : String) : Text.isUnicode (Text.ofString s) = true := by
  rw [Text.isUnicode, List.all_eq_true]
  intro point member
  obtain ⟨c, _, rfl⟩ := List.mem_map.mp member
  have valid : c.toNat < 0xD800 ∨ (0xDFFF < c.toNat ∧ c.toNat < 0x110000) := c.valid
  simp only [Text.isSurrogate, Bool.not_eq_true', Bool.and_eq_false_iff, decide_eq_false_iff_not]
  omega

theorem Value.is_writable_named (members : List (String × Value)) :
    (Value.named members).isWritable = members.all fun member => member.2.isWritable := by
  rw [Value.named, Value.isWritable]
  induction members with
  | nil => rfl
  | cons member rest induction =>
      have head : Value.withNames (member :: rest) =
          (Text.ofString member.1, member.2) :: Value.withNames rest := rfl
      rw [head, Value.membersAreWritable, Text.is_unicode_of_string, induction, List.all_cons,
        Bool.true_and]

theorem Value.is_writable_word (s : String) : (Value.word s).isWritable = true := by
  rw [Value.word, Value.isWritable]
  exact Text.is_unicode_of_string s

theorem is_writable_report_body (code : String) (message : Text) :
    (reportBody code message).isWritable = Text.isUnicode message := by
  simp [reportBody, Value.is_writable_named, Value.is_writable_word, Value.isWritable]

namespace Cors

variable (origins : List Text) (request : Request) (response : Response)

theorem decorate_status : (decorate origins request response).status = response.status := by
  unfold decorate allow
  repeat' split
  all_goals rfl

theorem decorate_content : (decorate origins request response).content = response.content := by
  unfold decorate allow
  repeat' split
  all_goals rfl

theorem preflight?_of_get {request : Request} (method : request.method = "GET") :
    preflight? origins request = none := by
  have other : ¬request.method = "OPTIONS" := by
    rw [method]
    decide
  unfold preflight? Inquiry.ofRequest?
  split <;> simp [other]

end Cors

namespace App

/-- The check against the form of the response accepts everything that is found, as it is. -/
theorem form_eq (found : Found) : form found = .valid found.written := by
  cases found with
  | block found =>
      cases found with
      | none => rfl
      | some block =>
          rw [form, Block.of_value_to_value]
          rfl
  | latest latest =>
      rw [form, Latest.of_value_to_value]
      rfl

theorem write_eq (found : Found) : write found = writeValue found.written := by
  rw [write, form_eq]

theorem write_of_writable {found : Found} (plain : found.written.isWritable = true) :
    write found = .ok found.written := by
  rw [write_eq, writeValue, if_pos plain]

theorem write_of_other {found : Found} (strange : found.written.isWritable = false) :
    write found = .error (.unwritable .found) := by
  rw [write_eq, writeValue, strange]
  rfl

def answered (result : Except Failure Found) : Except Failure Response :=
  result.bind fun found => (write found).map (Response.document 200)

theorem answered_of_writable {found : Found} (plain : found.written.isWritable = true) :
    answered (.ok found) = .ok (.document 200 found.written) :=
  congrArg (Except.map (Response.document 200)) (write_of_writable plain)

theorem answered_of_other {found : Found} (strange : found.written.isWritable = false) :
    answered (.ok found) = .error (.unwritable .found) :=
  congrArg (Except.map (Response.document 200)) (write_of_other strange)

theorem outcome_look_up (sources : Sources) (lookup : Lookup) (session : Session) :
    (lookUp sources lookup).outcome session =
      (answered ((sources.look lookup).outcome session).1,
        ((sources.look lookup).outcome session).2) := by
  rw [lookUp, Explore.outcome_bind]
  rcases (sources.look lookup).outcome session with ⟨result, after⟩
  cases result with
  | error failure => rfl
  | ok found =>
      simp only [Explore.outcome_bind, Explore.outcome_of_except, answered, Except.bind]
      cases write found <;> rfl

variable {app : App} {pipeline : Pipeline} {request : Request} {lookup : Lookup}

theorem respond_of_asks (connection : Connection) (node : Node) (session : Session)
    (started : app.pipeline = some pipeline) (method : request.method = "GET")
    (asks : request.AsksFor lookup) :
    let outcome := ((pipeline.sources connection node).look lookup).outcome session
    app.respond connection node request session =
      (serve app.settings.corsOrigins request (answered outcome.1), outcome.2) := by
  obtain ⟨route, path, asked⟩ := asks.route
  have handled : app.handle connection node request =
      lookUp (pipeline.sources connection node) lookup := by
    simp only [handle, path, if_pos method, visit, asked, started, Pipeline.sources]
  simp only [respond, Cors.preflight?_of_get _ method, handled, outcome_look_up]

variable (origins : List Text)

theorem send_tells (request : Request) {body : Value} (plain : body.isWritable = true)
    (status : Nat) : (send origins request (.document status body)).Tells status body := by
  have writable : (Response.document status body).isWritable = true := plain
  rw [send, if_pos writable]
  exact ⟨Cors.decorate_status _ _ _, Cors.decorate_content _ _ _, rfl⟩

theorem send_breaks (request : Request) (status : Nat) {body : Value}
    (strange : body.isWritable = false) :
    (send origins request (.document status body)).Breaks (.unwritable .other) := by
  have unwritable : ¬(Response.document status body).isWritable = true := by
    rw [Bool.not_eq_true]
    exact strange
  rw [send, if_neg unwritable]
  exact ⟨rfl, rfl, rfl⟩

structure Conveys (result : Except Failure Found) (served : Served) : Prop where
  shown : ∀ found, result = .ok found →
    (served.Tells 200 found.written ↔ found.written.isWritable = true) ∧
    (found.written.isWritable = false → served.Breaks (.unwritable .found))
  reported : ∀ error, result = .error (.boundary error) →
    (served.Tells error.code.status (reportBody error.code.name error.message) ↔
      Text.isUnicode error.message = true) ∧
    (Text.isUnicode error.message = false → served.Breaks (.unwritable .other))
  foreign : ∀ failure, result = .error failure → (∀ error, failure ≠ .boundary error) →
    served.Breaks failure

theorem serve_conveys (request : Request) (result : Except Failure Found) :
    Conveys result (serve origins request (answered result)) := by
  cases result with
  | ok found =>
      refine ⟨?_, fun _ same => (by cases same), fun _ same => (by cases same)⟩
      intro other same
      cases same
      cases plain : found.written.isWritable with
      | true =>
          rw [answered_of_writable plain]
          have tells := send_tells origins request plain
          exact ⟨iff_of_true (tells 200) rfl, fun strange => (by cases strange)⟩
      | false =>
          rw [answered_of_other plain]
          have breaks : (⟨.internalError, some (.unwritable .found)⟩ : Served).Breaks
              (.unwritable .found) := ⟨rfl, rfl, rfl⟩
          exact ⟨iff_of_false (breaks.not_tells _ _) (by decide), fun _ => breaks⟩
  | error failure =>
      refine ⟨fun _ same => (by cases same), ?_, ?_⟩
      · intro error same
        cases same
        have body := is_writable_report_body error.code.name error.message
        cases plain : Text.isUnicode error.message with
        | true =>
            have tells := send_tells origins request (body.trans plain)
            exact ⟨iff_of_true (tells error.code.status) rfl, fun strange => (by cases strange)⟩
        | false =>
            have breaks := send_breaks origins request error.code.status (body.trans plain)
            exact ⟨iff_of_false (breaks.not_tells _ _) (by decide), fun _ => breaks⟩
      · intro other same foreign
        cases same
        cases failure with
        | boundary error => exact absurd rfl (foreign error)
        | _ => exact ⟨rfl, rfl, rfl⟩

end App

/-- What is written of a single block has no epoch; the latest blocks are tagged by their kind. -/
structure Found.Formed (found : Found) : Prop where
  missing : found = .block none → found.written = .null
  epochless : ∀ shown, found = .block (some shown) →
    ∃ members, found.written = .record members ∧ Value.member? "epoch" members = none
  last : ∀ shown, found = .latest (.last shown) → ∃ members, found.written = .record members ∧
    Value.member? "kind" members = some (.word "last_block")
  page : ∀ shown, found = .latest (.page shown) → ∃ members, found.written = .record members ∧
    Value.member? "kind" members = some (.word "latest_blocks")

theorem Found.formed (found : Found) : found.Formed where
  missing := by
    rintro rfl
    rfl
  epochless := by
    rintro shown rfl
    exact ⟨_, rfl, Value.member?_with_names _ _⟩
  last := by
    rintro shown rfl
    exact ⟨_, rfl, Value.member?_with_names _ _⟩
  page := by
    rintro shown rfl
    exact ⟨_, rfl, Value.member?_with_names _ _⟩

/-- The status and the code by which the errors of each boundary are reported. Nothing that a client
sends can make the report of its own fault fail. -/
structure App.ReportsBoundaries (result : Except Failure Found) (served : Served) : Prop where
  client : ∀ fault, result = .error (.client fault) →
    served.Tells 400 (reportBody fault.code.name (Text.ofString fault.message)) ∧
      (fault.code = .invalidParameter ∨ fault.code = .invalidHash)
  store : ∀ fault, result = .error (.store fault) → Text.isUnicode fault.message = true →
    served.Tells 500 (reportBody "DATABASE_ERROR" fault.message)
  node : ∀ fault, result = .error (.node fault) → Text.isUnicode fault.message = true →
    served.Tells 503 (reportBody "SERVICE_UNAVAILABLE" fault.message)

theorem ClientFault.code_cases (fault : ClientFault) :
    fault.code = .invalidParameter ∨ fault.code = .invalidHash := by
  cases fault <;> simp [ClientFault.code]

theorem App.Conveys.reports_boundaries {result : Except Failure Found} {served : Served}
    (conveys : Conveys result served) : ReportsBoundaries result served where
  client := by
    intro fault failed
    have tells := (conveys.reported _ failed).1.mpr (Text.is_unicode_of_string fault.message)
    have status : fault.code.status = 400 := by
      rcases fault.code_cases with same | same <;> rw [same] <;> rfl
    refine ⟨?_, fault.code_cases⟩
    rw [← status]
    exact tells
  store fault failed plain := (conveys.reported _ failed).1.mpr plain
  node fault failed plain := (conveys.reported _ failed).1.mpr plain

/-- A request for what a lookup finds is answered by what the lookup comes to: the response carries
what was found in its written form, exactly where all of its texts are Unicode and all of its
integers short enough to be written, or the code and the message of an error, exactly where the
message is Unicode. Where this is not so, and for a failure that is no error of the explorer, the
client is told of a failure without any more. The check of a written form gives the model back. -/
theorem responses_carry_lookups_unless_unwritable (app : App) (pipeline : Pipeline)
    (connection : Connection) (node : Node) (request : Request) (lookup : Lookup)
    (session : Session) (started : app.pipeline = some pipeline) (method : request.method = "GET")
    (asks : request.AsksFor lookup) :
    let outcome := ((pipeline.sources connection node).look lookup).outcome session
    let served := app.respond connection node request session
    App.Conveys outcome.1 served.1 ∧ App.ReportsBoundaries outcome.1 served.1 ∧
      served.2 = outcome.2 ∧ (∀ found, outcome.1 = .ok found → found.Formed) ∧
      (∀ block : Block, Block.ofValue block.toValue = .valid block) ∧
      ∀ latest : Latest, Latest.ofValue latest.toValue = .valid latest := by
  intro outcome served
  have responded : served = (App.serve app.settings.corsOrigins request
      (App.answered outcome.1), outcome.2) :=
    App.respond_of_asks connection node session started method asks
  have conveys : App.Conveys outcome.1 served.1 := by
    rw [responded]
    exact App.serve_conveys app.settings.corsOrigins request outcome.1
  refine ⟨conveys, conveys.reports_boundaries, ?_, fun found _ => found.formed,
    Block.of_value_to_value, Latest.of_value_to_value⟩
  rw [responded]

namespace SmallStore

def settings : Settings where
  databaseUrl := Text.ofString "postgresql://localhost/chain"
  poolMinSize := 2
  poolMaxSize := 10
  commandTimeout := Settings.defaultCommandTimeout
  nodeAddress := Text.ofString "http://127.0.0.1:26657"
  rpcTimeout := Settings.defaultRpcTimeout
  checksumsPath := Text.ofString "checksums.json"
  fanout := 8
  host := Text.ofString "0.0.0.0"
  port := 30303
  logLevel := Text.ofString "INFO"
  corsOrigins := [Cors.star]

def pipeline : Pipeline := ⟨checksums, true, none⟩

def app : App := ⟨settings, some pipeline⟩

def firstRequest : Request where
  method := "GET"
  host := Text.ofString "testserver"
  path := Text.ofString "/block/hash/01"
  query := []
  headers := []

theorem first_request_asks : firstRequest.AsksFor (.byHashText (Text.ofString "01")) :=
  .byHash rfl (by decide) (by decide)

theorem first_block_looked_up :
    ((world.sources checksums).look (.byHashText (Text.ofString "01"))).Yields
      (.ok (.block (some firstBlock))) := by
  have found := (Sources.by_hash_yields reliable checksums [1]).map Found.block
  exact found

end SmallStore

/-- The first block of the small store, asked for by the text of its hash. -/
theorem responses_carry_lookups_unless_unwritable_small_store :
    SmallStore.app.pipeline = some SmallStore.pipeline ∧ SmallStore.firstRequest.method = "GET" ∧
      SmallStore.firstRequest.AsksFor (.byHashText (Text.ofString "01")) ∧
      (SmallStore.app.respond SmallStore.world.connection SmallStore.world.node
        SmallStore.firstRequest Session.start).1.Tells 200
          SmallStore.firstBlock.settled.toValue := by
  have carried := responses_carry_lookups_unless_unwritable SmallStore.app SmallStore.pipeline
    SmallStore.world.connection SmallStore.world.node SmallStore.firstRequest _ Session.start rfl
    rfl SmallStore.first_request_asks
  have shown := carried.1.shown _ (SmallStore.first_block_looked_up Session.start)
  have plain : (Found.block (some SmallStore.firstBlock)).written.isWritable = true := by decide
  exact ⟨rfl, rfl, SmallStore.first_request_asks, shown.1.mpr plain⟩

end BlockExplorer
