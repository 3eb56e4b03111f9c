import BlockExplorer.Proofs.Retrieval

/-!
Classifying index entries one after another, from a store that may change or fail in between. What
one entry does is a function of the entry and of the store as it is then: a wrapped one asks
nothing, a decrypted one asks for its own record. The decode failures are counted exactly: each
record that is found and has no known program counts once, and nothing else does
(`decode_failures_count_unknown_programs`).
-/

namespace BlockExplorer

open Explore

/-- No program can be told for the transaction: it has no code, or an empty one, or one that the
table of checksums does not list. -/
def StoredTx.LacksProgram (checksums : Checksums) (record : StoredTx) : Prop :=
  record.code = none ∨ record.code = some [] ∨
    ∃ code ∈ record.code, checksums.lookup (Hex.lower code) = none

instance (checksums : Checksums) (record : StoredTx) :
    Decidable (record.LacksProgram checksums) :=
  inferInstanceAs (Decidable (_ ∨ _ ∨ _))

theorem StoredTx.lacks_program_iff {checksums : Checksums} {record : StoredTx} :
    record.LacksProgram checksums ↔ ∃ fault, record.decode checksums = .error fault := by
  unfold decode decodeWith
  split
  · next absent => exact iff_of_true (.inl absent) ⟨_, rfl⟩
  · next empty => exact iff_of_true (.inr (.inl empty)) ⟨_, rfl⟩
  · next code filled coded =>
      cases known : checksums.lookup (Hex.lower code) with
      | none => exact iff_of_true (.inr (.inr ⟨code, coded, known⟩)) ⟨_, rfl⟩
      | some program =>
          refine iff_of_false ?_ nofun
          rintro (absent | empty | ⟨other, same, unknown⟩)
          · cases coded.symm.trans absent
          · exact filled (Option.some.inj (coded.symm.trans empty))
          · cases coded.symm.trans same
            cases known.symm.trans unknown

theorem StoredTx.decode_of_known {checksums : Checksums} {record : StoredTx} {code : Bytes}
    {program : Text} (coded : record.code = some code) (filled : code ≠ [])
    (known : checksums.lookup (Hex.lower code) = some program) :
    record.decode checksums = .ok ⟨TxKind.programs.lookup program, program, record.data⟩ := by
  cases code with
  | nil => exact absurd rfl filled
  | cons byte rest => simp only [decode, decodeWith, coded, known]

structure Classification where
  connection : Option Connection
  node : Node
  entry : IndexEntry

namespace Classification

def run (checksums : Checksums) (step : Classification) : Explore (Option LabelledTx) :=
  Sources.classify ⟨step.connection, step.node, checksums⟩ step.entry

/-- The record of the entry: the first row that the store answers with, if it can be read. -/
def record? (step : Classification) : Option StoredTx := do
  let connection ← step.connection
  let rows ← (connection.reply (.transaction step.entry.hash)).toOption
  let row ← rows.head?.filter fun row => !row.isEmpty
  (Store.readRecord row).toOption

/-- The record of a decrypted entry is found, and no program can be told for it. -/
def LacksProgram (checksums : Checksums) (step : Classification) : Prop :=
  step.entry.kind = .decrypted ∧ ∃ record ∈ step.record?, record.LacksProgram checksums

instance (checksums : Checksums) (step : Classification) :
    Decidable (step.LacksProgram checksums) :=
  inferInstanceAs (Decidable (_ ∧ _))

def fetched (step : Classification) : Except Failure (Option StoredTx) :=
  match step.connection with
  | none => .error (.store .notConnected)
  | some connection =>
      ((connection.reply (.transaction step.entry.hash)).mapError
        (Store.failureOf .queryFailed)).bind fun rows =>
          Store.readSome Store.readRecord (rows.head?.filter fun row => !row.isEmpty)

def result (checksums : Checksums) (step : Classification) :
    Except Failure (Option LabelledTx) :=
  match step.entry.kind with
  | .wrapper => .ok (some ⟨Text.ofString EntryKind.wrapper.name, step.entry.hash⟩)
  | .decrypted =>
      step.fetched.map fun record =>
        record.map fun record => ⟨record.shownLabel checksums, step.entry.hash⟩

/-- The queries that are sent. -/
def queries (step : Classification) : List Query :=
  let query := .transaction step.entry.hash
  if step.entry.kind = .decrypted ∧ step.connection.any (·.isAcquired query) then [query] else []

variable {checksums : Checksums} {step : Classification}

theorem record?_eq_some_iff {record : StoredTx} :
    step.record? = some record ↔ step.fetched = .ok (some record) := by
  unfold record? fetched
  cases step.connection with
  | none => simp
  | some connection =>
      cases answered : connection.reply (.transaction step.entry.hash) with
      | error fault => simp [answered, Except.toOption, Except.mapError, Except.bind]
      | ok rows =>
          cases shown : rows.head?.filter fun row => !row.isEmpty with
          | none => simp [answered, shown, Except.toOption, Except.mapError, Except.bind,
              Store.readSome]
          | some row =>
              cases read : Store.readRecord row <;>
                simp [answered, shown, read, Except.toOption, Except.mapError, Except.bind,
                  Store.readSome, Except.map]

theorem lacks_program_iff_fetched (checksums : Checksums)
    (decrypted : step.entry.kind = .decrypted) :
    step.LacksProgram checksums ↔
      ∃ record, step.fetched = .ok (some record) ∧ record.LacksProgram checksums := by
  simp only [LacksProgram, decrypted, true_and, Option.mem_def, record?_eq_some_iff]

/-- A fetch fails for the store, the database or a malformed row. -/
theorem fetched_ne_decode (fault : DecodeFault) : step.fetched ≠ .error (.decode fault) := by
  intro failed
  unfold fetched at failed
  split at failed
  · cases failed
  · next connection _ =>
      rcases Collecting.bind_eq_error_iff.mp failed with refused | ⟨rows, _, unread⟩
      · cases answered : connection.reply (.transaction step.entry.hash) with
        | ok rows =>
            rw [answered] at refused
            cases refused
        | error reported =>
            rw [answered] at refused
            have same := Except.error.inj refused
            unfold Store.failureOf at same
            split at same <;> cases same
      · obtain ⟨row, _, refused⟩ := Store.read_some_error unread
        obtain ⟨table, fields, same⟩ := Store.read_record_error_is_malformed refused
        cases same

theorem outcome_fetch (decrypted : step.entry.kind = .decrypted) (session : Session) :
    (Store.txRecord step.connection step.entry.hash).outcome session =
      (step.fetched,
        { session with accesses := session.accesses ++ step.queries.map .query }) := by
  unfold fetched queries
  cases step.connection with
  | none => simp [Store.txRecord, Store.askOne, outcome_bind]
  | some connection =>
      simp only [Store.txRecord, Store.askOne, outcome_bind, Store.outcome_ask_some]
      cases acquired : connection.isAcquired (.transaction step.entry.hash) <;>
        cases connection.reply (.transaction step.entry.hash) <;>
        simp [decrypted, acquired, Except.mapError, Except.bind, Session.record]

end Classification

theorem Sources.outcome_label (sources : Sources) (record : StoredTx) (session : Session) :
    (sources.label record).outcome session =
      (.ok (record.shownLabel sources.checksums),
        { session with
          decodeFailures := session.decodeFailures +
            if record.LacksProgram sources.checksums then 1 else 0 }) := by
  rw [Sources.label, StoredTx.shownLabel]
  cases decoded : record.decode sources.checksums with
  | ok found =>
      have known : ¬record.LacksProgram sources.checksums := by
        rw [StoredTx.lacks_program_iff, decoded]
        rintro ⟨fault, failed⟩
        cases failed
      rw [StoredTx.program_kind_of_decoded decoded, if_neg known]
      rfl
  | error fault =>
      have lacking := StoredTx.lacks_program_iff.mpr ⟨fault, decoded⟩
      rw [StoredTx.program_kind_of_fault decoded, if_pos lacking]
      rfl

namespace Classification

variable {checksums : Checksums} {step : Classification}

/-- All that classifying an entry does. -/
theorem outcome_run (checksums : Checksums) (step : Classification) (session : Session) :
    (step.run checksums).outcome session =
      (step.result checksums,
        { session with
          decodeFailures := session.decodeFailures + if step.LacksProgram checksums then 1 else 0
          accesses := session.accesses ++ step.queries.map .query }) := by
  unfold run Sources.classify result
  cases kind : step.entry.kind with
  | wrapper =>
      have kept : ¬step.LacksProgram checksums := by
        rintro ⟨decrypted, -⟩
        cases kind.symm.trans decrypted
      simp [queries, kind, kept]
  | decrypted =>
      have lacking := lacks_program_iff_fetched checksums kind
      simp only [outcome_bind, outcome_fetch kind]
      -- A record that was fetched is the only one to go on with, and labelling it alone can count.
      cases fetch : step.fetched with
      | error failure =>
          have kept : ¬step.LacksProgram checksums := by simp [lacking, fetch]
          simp [Except.map, kept]
      | ok found =>
          cases found with
          | none =>
              have kept : ¬step.LacksProgram checksums := by simp [lacking, fetch]
              simp [Except.map, kept]
          | some record =>
              have counted : step.LacksProgram checksums ↔ record.LacksProgram checksums := by
                simp [lacking, fetch]
              simp only [outcome_bind, Sources.outcome_label, outcome_pure, counted]
              rfl

structure Behaves (checksums : Checksums) (step : Classification) (session : Session) : Prop where
  /-- A wrapped entry is shown as such whatever the store is like; nothing is asked or counted. -/
  wrapped : step.entry.kind = .wrapper → (step.run checksums).outcome session =
    (.ok (some ⟨Text.ofString "Wrapper", step.entry.hash⟩), session)
  /-- A decrypted entry fetches the record of its own hash once, and asks nothing behind that. -/
  fetches : step.entry.kind = .decrypted → ∃ next,
    step.run checksums = Store.txRecord step.connection step.entry.hash >>= next ∧
      ∀ record reached, ((next record).outcome reached).2.accesses = reached.accesses
  /-- One query is sent for that by a connection that is acquired for it. -/
  asks : step.entry.kind = .decrypted → ∀ connection ∈ step.connection,
    connection.acquire (.transaction step.entry.hash) = .ok () →
      ((step.run checksums).outcome session).2.accesses =
        session.accesses ++ [.query (.transaction step.entry.hash)]
  /-- If none is acquired nothing is sent. -/
  starves : step.entry.kind = .decrypted → ∀ connection ∈ step.connection, ∀ fault,
    connection.acquire (.transaction step.entry.hash) = .error fault →
      ((step.run checksums).outcome session).2.accesses = session.accesses
  /-- Without a connection a decrypted entry fails at once. -/
  refuses : step.entry.kind = .decrypted → step.connection = none →
    (step.run checksums).outcome session = (.error (.store .notConnected), session)
  /-- A summary is that of the entry. -/
  names : ∀ summary, ((step.run checksums).outcome session).1 = .ok (some summary) →
    summary.hash = step.entry.hash
  /-- That a record cannot be decoded is never passed on. -/
  conceals : ∀ fault, ((step.run checksums).outcome session).1 ≠ .error (.decode fault)
  /-- A record without a known program is counted, and nothing else. -/
  counts : ((step.run checksums).outcome session).2.decodeFailures =
    session.decodeFailures + if step.LacksProgram checksums then 1 else 0
  /-- What is counted is shown with the general label. -/
  generalizes : step.LacksProgram checksums → ((step.run checksums).outcome session).1 =
    .ok (some ⟨Text.ofString "Decrypted", step.entry.hash⟩)
  /-- A known program gives the label of its kind, which is the general one if it has no kind. -/
  knows : step.entry.kind = .decrypted → ∀ record ∈ step.record?, ∀ code ∈ record.code, code ≠ [] →
    ∀ program, checksums.lookup (Hex.lower code) = some program →
      ¬step.LacksProgram checksums ∧ ((step.run checksums).outcome session).1 =
        .ok (some ⟨Text.ofString (TxKind.label (TxKind.programs.lookup program)), step.entry.hash⟩)
  /-- A record that is missing is no fault, and neither that nor a failure is counted. -/
  spares : step.entry.kind = .decrypted → step.record? = none → ¬step.LacksProgram checksums ∧
    ∀ summary, ((step.run checksums).outcome session).1 ≠ .ok (some summary)

theorem hash_of_result {summary : LabelledTx}
    (shown : step.result checksums = .ok (some summary)) : summary.hash = step.entry.hash := by
  unfold result at shown
  split at shown
  · cases shown
    rfl
  · obtain ⟨record, _, mapped⟩ := Collecting.map_eq_ok_iff.mp shown
    obtain ⟨stored, _, rfl⟩ := Option.map_eq_some_iff.mp mapped
    rfl

theorem result_ne_decode (fault : DecodeFault) :
    step.result checksums ≠ .error (.decode fault) := by
  intro failed
  unfold result at failed
  split at failed
  · cases failed
  · exact fetched_ne_decode fault (Collecting.map_eq_error_iff.mp failed)

theorem result_of_record? {record : StoredTx} (decrypted : step.entry.kind = .decrypted)
    (found : step.record? = some record) :
    step.result checksums = .ok (some ⟨record.shownLabel checksums, step.entry.hash⟩) := by
  simp only [result, decrypted, record?_eq_some_iff.mp found]
  rfl

theorem behaves (checksums : Checksums) (step : Classification) (session : Session) :
    step.Behaves checksums session := by
  have outcome := outcome_run checksums step session
  constructor
  case wrapped =>
    intro wrapper
    have kept : ¬step.LacksProgram checksums := by simp [LacksProgram, wrapper]
    have quiet : step.queries = [] := by simp [queries, wrapper]
    rw [outcome, if_neg kept, quiet, List.map_nil, List.append_nil, result, wrapper]
    rfl
  case fetches =>
    intro decrypted
    refine ⟨_, by simp only [run, Sources.classify, decrypted]; rfl, fun record reached => ?_⟩
    cases record with
    | none => rfl
    | some record => simp only [outcome_bind, Sources.outcome_label, outcome_pure]
  case asks =>
    intro decrypted connection present acquired
    have asked : step.queries = [.transaction step.entry.hash] := by
      simp [queries, decrypted, Option.mem_def.mp present,
        Connection.is_acquired_iff.mpr acquired]
    rw [outcome, asked]
    rfl
  case starves =>
    intro decrypted connection present fault refused
    have quiet : step.queries = [] := by
      simp [queries, Option.mem_def.mp present, Connection.isAcquired, refused, Except.isOk,
        Except.toBool]
    rw [outcome, quiet, List.map_nil, List.append_nil]
  case refuses =>
    intro decrypted absent
    have quiet : step.queries = [] := by simp [queries, absent]
    have refused : step.fetched = .error (.store .notConnected) := by rw [fetched, absent]
    have kept : ¬step.LacksProgram checksums := by
      simp [lacks_program_iff_fetched checksums decrypted, refused]
    rw [outcome, if_neg kept, quiet, List.map_nil, List.append_nil, result, decrypted, refused]
    rfl
  case names =>
    intro summary shown
    rw [outcome] at shown
    exact hash_of_result shown
  case conceals =>
    intro fault failed
    rw [outcome] at failed
    exact result_ne_decode fault failed
  case counts => rw [outcome]
  case generalizes =>
    rintro ⟨decrypted, record, found, lacking⟩
    obtain ⟨fault, decoded⟩ := StoredTx.lacks_program_iff.mp lacking
    rw [outcome, result_of_record? decrypted found, StoredTx.shownLabel,
      StoredTx.program_kind_of_fault decoded]
    rfl
  case knows =>
    intro decrypted record found code coded filled program known
    have decoded := StoredTx.decode_of_known coded filled known
    constructor
    · rintro ⟨-, other, same, lacking⟩
      obtain ⟨fault, failed⟩ := StoredTx.lacks_program_iff.mp lacking
      cases found.symm.trans same
      cases decoded.symm.trans failed
    · rw [outcome, result_of_record? decrypted found, StoredTx.shownLabel,
        StoredTx.program_kind_of_decoded decoded]
  case spares =>
    intro decrypted absent
    refine ⟨fun lacking => ?_, fun summary shown => ?_⟩
    · obtain ⟨-, record, found, -⟩ := lacking
      cases absent.symm.trans found
    · rw [outcome] at shown
      simp only [result, decrypted] at shown
      obtain ⟨record, fetch, mapped⟩ := Collecting.map_eq_ok_iff.mp shown
      obtain ⟨stored, rfl, _⟩ := Option.map_eq_some_iff.mp mapped
      cases absent.symm.trans (record?_eq_some_iff.mpr fetch)

theorem session_after_eq (checksums : Checksums) (session : Session)
    (steps : List Classification) :
    sessionAfter (run checksums) session steps =
      { session with
        decodeFailures := session.decodeFailures +
          steps.countP fun step => step.LacksProgram checksums
        accesses := session.accesses ++ (steps.flatMap queries).map .query } := by
  induction steps generalizing session with
  | nil => simp [Explore.sessionAfter]
  | cons step rest induction =>
      rw [Explore.sessionAfter, induction, outcome_run]
      simp [List.countP_cons, Nat.add_assoc, Nat.add_comm]

/-- In a world the record is the first row of the transactions with the hash of the entry. -/
theorem record?_of_world (world : World) (entry : IndexEntry) {record : StoredTx} :
    (Classification.mk (some world.connection) world.node entry).record? = some record ↔
      world.fault? (some .transactions) = none ∧
        ∃ row, world.tables.record? entry.hash = some row ∧ Store.readRecord row = .ok record := by
  cases fault : world.fault? (some .transactions) with
  | some reported =>
      have failed : world.reply (.transaction entry.hash) = .error reported := by
        rw [World.reply, Query.table?, fault]
      simp [record?, failed, Except.toOption]
  | none =>
      have answered : world.reply (.transaction entry.hash) =
          .ok (world.tables.transactions.filter fun row => row.hasBytes "hash" entry.hash) := by
        rw [World.reply, Query.table?, fault]
        rfl
      have first :
          (world.tables.transactions.find? fun row => row.hasBytes "hash" entry.hash).filter
            (fun row => !row.isEmpty) = world.tables.record? entry.hash :=
        filter_find?_of_nonempty fun _ => Row.nonempty_of_has_bytes
      simp only [record?, World.reply_connection, answered, Except.toOption, Option.bind_eq_bind,
        Option.bind_some, List.head?_filter, first, Option.bind_eq_some_iff, true_and]
      refine exists_congr fun row => and_congr Iff.rfl ?_
      cases Store.readRecord row <;> simp

end Classification

/-- Classifying entries one after another, whatever the store is like at each of them. A wrapped
entry asks nothing and is shown as such, a decrypted one asks for its own record; what is shown has
the hash of the entry, and no fault of decoding is passed on. Behind any run the decode failures
have gone up by the number of decrypted entries whose record was found with no known program, and
the queries sent are those for the records of the decrypted entries, one for each for which a
connection was acquired. In a world the record of an entry is found if its table answers and the
first row with its hash can be read. -/
theorem decode_failures_count_unknown_programs (checksums : Checksums) (session : Session) :
    (∀ before (step : Classification) after,
      let run := Classification.run checksums
      let reached := sessionAfter run session before
      step.Behaves checksums reached ∧
      sessionAfter run session (before ++ step :: after) =
        sessionAfter run ((run step).outcome reached).2 after) ∧
    (∀ steps : List Classification,
      (sessionAfter (Classification.run checksums) session steps).decodeFailures =
        session.decodeFailures + steps.countP (fun step => step.LacksProgram checksums) ∧
      (sessionAfter (Classification.run checksums) session steps).accesses =
        session.accesses ++ (steps.flatMap Classification.queries).map .query) ∧
    ∀ (world : World) (entry : IndexEntry),
      let step := Classification.mk (some world.connection) world.node entry
      step.run checksums = (world.sources checksums).classify entry ∧
      ∀ record, step.record? = some record ↔ world.fault? (some .transactions) = none ∧
        ∃ row, world.tables.record? entry.hash = some row ∧
          Store.readRecord row = .ok record := by
  refine ⟨fun before step after => ⟨step.behaves checksums _, ?_⟩, fun steps => ?_,
    fun world entry => ⟨rfl, fun record => Classification.record?_of_world world entry⟩⟩
  · rw [session_after_append, sessionAfter]
  · rw [Classification.session_after_eq]
    exact ⟨rfl, rfl⟩

/-- Of a wrapped entry, a known program twice, a missing record and an unknown code the last
counts. -/
example : (sessionAfter (Classification.run SmallStore.checksums) .start
    (SmallStore.entries.map (.mk (some SmallStore.world.connection) SmallStore.world.node))
    ).decodeFailures = 1 := by
  decide

end BlockExplorer
