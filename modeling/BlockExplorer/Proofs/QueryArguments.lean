import BlockExplorer.Proofs.Composition
import BlockExplorer.Proofs.Turns

/-!
The integers that a client's request puts into queries. A height is checked at both ends before
anything is asked. A count and an offset are checked at the lower end only, so the query for a page
carries them as they are, however great; no other query has an integer among its arguments.
-/

namespace BlockExplorer

open Explore

/-- The range of heights, limits and offsets: signed integers of 64 bits that are not negative. -/
def FitsBigint (n : Int) : Prop := 0 ≤ n ∧ n ≤ 9223372036854775807

def Query.Fits (query : Query) : Prop := ∀ n, .int n ∈ query.arguments → FitsBigint n

def Explore.QueriesFit {α : Type} (run : Explore α) (session : Session) : Prop :=
  ∃ made, (run.outcome session).2.accesses = session.accesses ++ made ∧
    ∀ query, .query query ∈ made → query.Fits

/-- An integer of a client is rejected before anything is done. One that is too long to be written
cannot be named in a fault of the client. -/
structure Explore.Rejects {α : Type} (run : Explore α) (n : Int) (session : Session) : Prop where
  named : Numeral.isWritable n → ∃ fault, run.outcome session = (.error (.client fault), session)
  long : Numeral.isWritable n = false → run.outcome session = (.error .longInteger, session)

def Explore.AsksFirst {α : Type} (run : Explore α) (query : Query) (session : Session) : Prop :=
  ∃ later, (run.outcome session).2.accesses = session.accesses ++ .query query :: later ∧
    ∀ other, .query other ∈ later → other.Fits

def Sources.Reaches (sources : Sources) (query : Query) : Prop :=
  ∃ connection ∈ sources.connection, connection.acquire query = .ok ()

/-- A height is asked for exactly if it fits; otherwise it is rejected. -/
structure Explore.GuardsHeight {α : Type} (run : Explore α) (reached : Prop) (height : Int)
    (session : Session) : Prop where
  fits : run.QueriesFit session
  asks : FitsBigint height → reached → run.AsksFirst (.blockByHeight height) session
  rejects : ¬FitsBigint height → run.Rejects height session

/-- A page whose count or offset is negative is rejected, the count first; any other is asked for as
it is, so its query fits exactly where the count and the offset do. -/
structure Explore.PassesPage {α : Type} (run : Explore α) (reached : Prop) (count offset : Int)
    (session : Session) : Prop where
  counts : count < 0 → run.Rejects count session
  shifts : 0 ≤ count → offset < 0 → run.Rejects offset session
  asks : 0 ≤ count → 0 ≤ offset → reached → run.AsksFirst (.blockPage count offset) session
  fits : run.QueriesFit session ↔
    ¬(reached ∧ 0 ≤ count ∧ 0 ≤ offset ∧ ¬(FitsBigint count ∧ FitsBigint offset))

def Access.Fits (access : Access) : Prop := ∀ query, access = .query query → query.Fits

namespace Query

theorem fits_of_bytes {query : Query} {bytes : Bytes} (only : query.arguments = [.bytes bytes]) :
    query.Fits := by
  intro n member
  rw [only] at member
  cases List.mem_singleton.mp member

theorem latest_block_fits : Query.latestBlock.Fits := by
  intro n member
  cases member

theorem block_by_height_fits {height : Int} (fits : FitsBigint height) :
    (Query.blockByHeight height).Fits := by
  intro n member
  cases List.mem_singleton.mp member
  exact fits

theorem block_page_fits_iff {count offset : Int} :
    (Query.blockPage count offset).Fits ↔ FitsBigint count ∧ FitsBigint offset := by
  constructor
  · intro fits
    have first : Value.int count ∈ (Query.blockPage count offset).arguments := List.mem_cons_self
    have second : Value.int offset ∈ (Query.blockPage count offset).arguments :=
      List.mem_cons_of_mem _ List.mem_cons_self
    exact ⟨fits count first, fits offset second⟩
  · rintro ⟨first, second⟩ n member
    rcases List.mem_cons.mp member with same | member
    · cases same
      exact first
    · cases List.mem_singleton.mp member
      exact second

end Query

theorem Query.Fits.access {query : Query} (fits : query.Fits) : (Access.query query).Fits := by
  intro other same
  cases same
  exact fits

namespace Explore

variable {α β : Type}

theorem sends_composable (allowed : Access → Prop) :
    Composable fun _ run => run.Sends allowed where
  idle _ content := sends_pure content
  behind _ _ _ _ first second := first.bind second

theorem Sends.queries_fit {run : Explore α} (sends : run.Sends Access.Fits) (session : Session) :
    run.QueriesFit session := by
  obtain ⟨made, grown, fine⟩ := sends session
  exact ⟨made, grown, fun query member => fine (.query query) member query rfl⟩

theorem rejects_refuse (fault : Numeral.Writable → ClientFault) (n : Int) (session : Session) :
    (refuse fault n : Explore α).Rejects n session where
  named written := ⟨fault ⟨n, written⟩, by
    rw [refuse, ← Failure.naming_val ⟨n, written⟩ fun n => .client (fault n), outcome_fail]⟩
  long long := by rw [refuse, Failure.naming_of_long long, outcome_fail]

theorem Rejects.queries_fit {run : Explore α} {n : Int} {session : Session}
    (rejects : run.Rejects n session) : run.QueriesFit session := by
  refine ⟨[], ?_, fun query member => nomatch member⟩
  rw [List.append_nil]
  cases written : Numeral.isWritable n with
  | true =>
      obtain ⟨fault, same⟩ := rejects.named written
      rw [same]
  | false => rw [rejects.long written]

theorem ask_asks_first {connection : Connection} {query : Query}
    (acquired : connection.acquire query = .ok ()) (session : Session) :
    (Store.ask (some connection) query).AsksFirst query session := by
  refine ⟨[], ?_, fun other member => nomatch member⟩
  rw [Store.outcome_ask_some, if_pos (Connection.is_acquired_iff.mpr acquired)]
  rfl

theorem AsksFirst.bind {run : Explore α} {next : α → Explore β} {query : Query}
    {session : Session} (first : run.AsksFirst query session)
    (behind : ∀ content, (next content).Sends Access.Fits) :
    (run >>= next).AsksFirst query session := by
  obtain ⟨later, grown, fits⟩ := first
  rw [AsksFirst, outcome_bind]
  rcases equation : run.outcome session with ⟨result, between⟩
  rw [equation] at grown
  cases result with
  | error failure => exact ⟨later, grown, fits⟩
  | ok content =>
      obtain ⟨made, more, fine⟩ := behind content between
      refine ⟨later ++ made, ?_, fun other member => ?_⟩
      · exact more.trans (by rw [grown, List.append_assoc, List.cons_append])
      · rcases List.mem_append.mp member with early | late
        · exact fits other early
        · exact fine (.query other) late other rfl

theorem ask_one_asks_first {connection : Connection} {query : Query}
    (acquired : connection.acquire query = .ok ()) (session : Session) :
    (Store.askOne (some connection) query).AsksFirst query session :=
  (ask_asks_first acquired session).bind fun _ => sends_pure _

theorem AsksFirst.queries_fit_iff {run : Explore α} {query : Query} {session : Session}
    (first : run.AsksFirst query session) : run.QueriesFit session ↔ query.Fits := by
  obtain ⟨later, grown, fits⟩ := first
  constructor
  · rintro ⟨made, same, fine⟩
    rw [grown] at same
    rw [← List.append_cancel_left same] at fine
    exact fine query List.mem_cons_self
  · intro head
    refine ⟨_, grown, fun other member => ?_⟩
    rcases List.mem_cons.mp member with same | member
    · cases same
      exact head
    · exact fits other member

theorem GuardsHeight.of_rejects {run : Explore α} {reached : Prop} {height : Int}
    {session : Session} (rejected : run.Rejects height session) (outside : ¬FitsBigint height) :
    run.GuardsHeight reached height session where
  fits := rejected.queries_fit
  asks within := absurd within outside
  rejects _ := rejected

end Explore

namespace Sources

variable (sources : Sources) {fanout : Nat} (schedule : Schedule fanout)

theorem parts_fit : HoldsOfParts (fun _ run => run.Sends Access.Fits) sources where
  count := sends_count_decode_failure
  entries blockId := by
    have fits : (Query.txHashes blockId).Fits := Query.fits_of_bytes rfl
    have asked := (Store.ask_sends sources.connection (.txHashes blockId)).only fits.access
    exact asked.bind fun _ => sends_of_except _
  record hash := by
    have fits : (Query.transaction hash).Fits := Query.fits_of_bytes rfl
    have asked := (Store.ask_one_sends sources.connection (.transaction hash)).only fits.access
    exact asked.bind fun _ => sends_of_except _

theorem epoch_fits (height : Int) : (sources.node.epoch height).Sends Access.Fits := by
  apply (sources.node.epoch_sends height).mono
  rintro access ⟨id, written, sent, -, rfl⟩ query same
  cases same

theorem annotate_in_turns_fits (row : StoredBlock) :
    (sources.annotateInTurns schedule row).Sends Access.Fits :=
  sources.parts_fit.annotate_in_turns (sends_composable _) sources.epoch_fits schedule row

theorem by_height_in_turns_guards (height : Int) (session : Session) :
    (sources.byHeightInTurns schedule height).GuardsHeight
      (sources.Reaches (.blockByHeight height)) height session := by
  have limit : maxHeight = 9223372036854775807 := by decide
  unfold byHeightInTurns
  split
  · next negative =>
    have outside : ¬FitsBigint height := fun within => by have := within.1; omega
    exact .of_rejects (rejects_refuse _ height session) outside
  split
  · next great =>
    have outside : ¬FitsBigint height := fun within => by have := within.2; omega
    exact .of_rejects (rejects_refuse _ height session) outside
  next lower upper =>
    have within : FitsBigint height := ⟨by omega, by omega⟩
    have fits := Query.block_by_height_fits within
    have found : (Store.blockByHeight sources.connection height).Sends Access.Fits :=
      ((Store.ask_one_sends _ _).only fits.access).bind fun _ => sends_of_except _
    have sends := sources.parts_fit.assemble_found (sends_composable _) schedule found
    refine ⟨sends.queries_fit session, fun _ reached => ?_, fun outside => absurd within outside⟩
    obtain ⟨connection, present, acquired⟩ := reached
    rw [present]
    have asked := ask_one_asks_first acquired session
    apply (asked.bind fun _ => sends_of_except _).bind
    exact sources.parts_fit.assemble_some_in_turns (sends_composable _) schedule

/-- The rows of a page are asked for first; no query that follows has an integer in it. -/
theorem page_asks {annotate : List StoredBlock → Explore (List EpochBlock)}
    (annotated : ∀ rows, (annotate rows).Sends Access.Fits) {connection : Connection} {count : Int}
    {offset : Option Int}
    (acquired : connection.acquire (.blockPage count (offset.getD 0)) = .ok ())
    (session : Session) :
    (do
      let rows ← Store.latestBlocks (some connection) count offset
      let blocks ← annotate rows
      return Latest.page blocks : Explore Latest).AsksFirst (.blockPage count (offset.getD 0))
        session := by
  apply ((ask_asks_first acquired session).bind fun _ => sends_of_except _).bind
  intro rows
  exact (annotated rows).bind fun _ => sends_pure _

/-- Where no connection is acquired for a query, no step behind it is taken. -/
theorem ask_makes_none {sources : Sources} {query : Query} (missed : ¬sources.Reaches query)
    (session : Session) :
    ∃ failure,
      (Store.ask sources.connection query).outcome session = (.error failure, session) := by
  cases present : sources.connection with
  | none => exact ⟨_, Store.outcome_ask_none query session⟩
  | some connection =>
      cases acquired : connection.acquire query with
      | ok nothing => exact absurd ⟨connection, present, acquired⟩ missed
      | error fault =>
          refine ⟨Store.failureOf .queryFailed fault, ?_⟩
          rw [Store.outcome_ask_some, Connection.isAcquired, Connection.reply, acquired]
          rfl

theorem page_passes {annotate : List StoredBlock → Explore (List EpochBlock)}
    (annotated : ∀ rows, (annotate rows).Sends Access.Fits) (sources : Sources) (count : Int)
    (offset : Option Int) (session : Session) :
    (if count < 0 then refuse .negativeCount count
      else if offset.getD 0 < 0 then refuse .negativeOffset (offset.getD 0)
      else do
        let rows ← Store.latestBlocks sources.connection count offset
        let blocks ← annotate rows
        return Latest.page blocks : Explore Latest).PassesPage
          (sources.Reaches (.blockPage count (offset.getD 0))) count (offset.getD 0) session := by
  by_cases uncounted : count < 0
  · have rejected : (refuse .negativeCount count : Explore Latest).Rejects count session :=
      rejects_refuse _ count session
    rw [if_pos uncounted]
    exact ⟨fun _ => rejected, by omega, by omega,
      iff_of_true rejected.queries_fit fun beyond => by omega⟩
  by_cases unshifted : offset.getD 0 < 0
  · have rejected : (refuse .negativeOffset (offset.getD 0) : Explore Latest).Rejects
        (offset.getD 0) session := rejects_refuse _ _ session
    rw [if_neg uncounted, if_pos unshifted]
    exact ⟨by omega, fun _ _ => rejected, by omega,
      iff_of_true rejected.queries_fit fun beyond => by omega⟩
  rw [if_neg uncounted, if_neg unshifted]
  by_cases reached : sources.Reaches (.blockPage count (offset.getD 0))
  · obtain ⟨connection, present, acquired⟩ := reached
    have paged := page_asks annotated acquired session
    rw [← present] at paged
    refine ⟨by omega, by omega, fun _ _ _ => paged, ?_⟩
    rw [paged.queries_fit_iff, Query.block_page_fits_iff]
    constructor
    · rintro both ⟨_, _, _, beyond⟩
      exact beyond both
    · intro within
      by_contra beyond
      exact within ⟨⟨connection, present, acquired⟩, by omega, by omega, beyond⟩
  · refine ⟨by omega, by omega, fun _ _ found => absurd found reached,
      iff_of_true ⟨[], ?_, fun query member => nomatch member⟩ fun beyond => reached beyond.1⟩
    obtain ⟨failure, failed⟩ := ask_makes_none reached session
    rw [Store.latestBlocks, bind_assoc, outcome_bind, failed, List.append_nil]

theorem page_in_turns_passes (count : Int) (offset : Option Int) (session : Session) :
    (sources.pageInTurns schedule count offset).PassesPage
      (sources.Reaches (.blockPage count (offset.getD 0))) count (offset.getD 0) session := by
  apply page_passes
  intro rows
  exact (sends_composable _).gather (sources.annotate_in_turns_fits schedule) _ rows

theorem last_fits : sources.last.Sends Access.Fits := by
  have asked := (Store.ask_one_sends sources.connection .latestBlock).only
    Query.latest_block_fits.access
  apply (asked.bind fun row => ?_).bind
  · intro row
    rw [← sources.annotate_in_order Nat.one_pos]
    exact (sources.annotate_in_turns_fits _ row).bind fun _ => sends_pure _
  · cases row with
    | none => exact sends_fail _
    | some row => exact sends_of_except _

end Sources

/-- Which integers a client can get into a query. Every query of a lookup by height fits, and a
height out of range is rejected before anything is asked. Without a count, every query for the
latest block fits whatever the offset is. With one, a negative count or offset is rejected before
anything is asked, but one that is too great is not: the query for the page has it as it is. An
integer that is too long to be written is rejected as such. -/
theorem client_integers_fit_unless_page_exceeds (sources : Sources) (session : Session) :
    (∀ height, (sources.byHeight height).GuardsHeight (sources.Reaches (.blockByHeight height))
      height session) ∧
    (∀ offset, (sources.latest none offset).QueriesFit session) ∧
    (∀ count offset, (sources.latest (some count) offset).PassesPage
      (sources.Reaches (.blockPage count (offset.getD 0))) count (offset.getD 0) session) ∧
    ∀ (fanout : Nat) (schedule : Schedule fanout),
      (∀ height, (sources.byHeightInTurns schedule height).GuardsHeight
        (sources.Reaches (.blockByHeight height)) height session) ∧
      ∀ count offset, (sources.pageInTurns schedule count offset).PassesPage
        (sources.Reaches (.blockPage count (offset.getD 0))) count (offset.getD 0) session := by
  refine ⟨fun height => ?_, fun offset => ?_, fun count offset => ?_, fun fanout schedule => ?_⟩
  · rw [← sources.by_height_in_order Nat.one_pos]
    exact sources.by_height_in_turns_guards _ height session
  · exact sources.last_fits.queries_fit session
  · rw [← sources.page_in_order Nat.one_pos]
    exact sources.page_in_turns_passes _ count offset session
  · exact ⟨fun height => sources.by_height_in_turns_guards schedule height session,
      fun count offset => sources.page_in_turns_passes schedule count offset session⟩

end BlockExplorer
