import BlockExplorer.Proofs.Collecting
import BlockExplorer.Proofs.Runs

/-!
What may come of a question to the node. An epoch fits 64 bits, and a failure is one of the node,
unless the height is too long to be written or the exchange is of a kind that nothing was prepared
for: a fault that is none of the exchange itself, a status that is too long to be written, a
document that nests too deep, a response that is no object, or a value that is no text.
-/

namespace BlockExplorer

open Collecting

structure NodeReply.HasResult (reply : NodeReply) (result : List (Text × Json)) : Prop where
  good : reply.status = 200
  document : ∃ members, NodeReply.document reply.body = .ok (.object members) ∧
    (NodeReply.member "error" members).isFalsy = true ∧
    NodeReply.member "result" members = .object result

/-- The exchanges that nothing was prepared for, each with the failure that it brings about. -/
inductive Exchange.Unforeseen : Exchange → Failure → Prop
  | transport {fault : TransportFault} (foreign : fault.kind.isHttpFault = false) :
      Unforeseen (.error fault) (.transport fault)
  | status {reply : NodeReply} (long : Numeral.isWritable reply.status = false) :
      Unforeseen (.ok reply) .longInteger
  | depth {reply : NodeReply} {text : Text} {fault : Json.Fault} (good : reply.status = 200)
      (decoded : Utf.decodeDocument reply.body = .ok text)
      (stopped : Json.parse text = .error fault) (deep : fault.isDepth = true) :
      Unforeseen (.ok reply) (.unreadableDocument fault)
  | response {reply : NodeReply} {result : List (Text × Json)} (answered : reply.HasResult result)
      (present : (NodeReply.member "response" result).isFalsy = false)
      (other : ∀ members, NodeReply.member "response" result ≠ .object members) :
      Unforeseen (.ok reply) (.notAnObject (NodeReply.member "response" result).kind)
  | value {reply : NodeReply} {result response : List (Text × Json)}
      (answered : reply.HasResult result)
      (object : NodeReply.member "response" result = .object response)
      (accepted : ((Json.member? "code" response).getD (.int 0)).isZero = true)
      (present : (NodeReply.member "value" response).isFalsy = false)
      (other : ∀ text, NodeReply.member "value" response ≠ .text text) :
      Unforeseen (.ok reply) (.notBase64Text (NodeReply.member "value" response).kind)

inductive Node.Unforeseen (node : Node) (height : Int) : Failure → Prop
  | height (long : Numeral.isWritable height = false) : node.Unforeseen height .longInteger
  | exchange {failure : Failure} (written : Numeral.isWritable height)
      (unforeseen : (node.epochAt height).Unforeseen failure) : node.Unforeseen height failure

def Failure.IsOfNode (failure : Failure) : Prop := ∃ fault, failure = .node fault

theorem Epoch.limit_eq : Epoch.limit = twoTo 64 := by decide

theorem Epoch.decode?_bound {bytes : Bytes} {epoch : Nat}
    (decoded : Epoch.decode? bytes = some (some epoch)) : epoch < Epoch.limit := by
  rw [Epoch.decode?.eq_def] at decoded
  split at decoded
  · cases decoded
  · next rest =>
      split at decoded
      · next size =>
          cases decoded
          have bound := Epoch.of_little_endian_lt rest
          rw [size] at bound
          exact bound
      · cases decoded
  · cases decoded

namespace NodeReply

theorem document_error {body : Bytes} {failure : Failure}
    (failed : document body = .error failure) :
    failure.IsOfNode ∨ ∃ text fault, Utf.decodeDocument body = .ok text ∧
      Json.parse text = .error fault ∧ fault.isDepth = true ∧
      failure = .unreadableDocument fault := by
  unfold document at failed
  split at failed
  · next fault _ => exact .inl ⟨_, (Except.error.inj failed).symm⟩
  · next text decoded =>
      split at failed
      · cases failed
      · next fault stopped =>
          split at failed
          · next deep =>
              exact .inr ⟨text, fault, decoded, stopped, deep, (Except.error.inj failed).symm⟩
          · exact .inl ⟨_, (Except.error.inj failed).symm⟩

theorem document_of_depth {body : Bytes} {text : Text} {fault : Json.Fault}
    (decoded : Utf.decodeDocument body = .ok text) (stopped : Json.parse text = .error fault)
    (deep : fault.isDepth = true) : document body = .error (.unreadableDocument fault) := by
  simp only [document, decoded, stopped, deep, if_true]

theorem result_error {found : Json} {failure : Failure} (failed : result found = .error failure) :
    failure.IsOfNode := by
  unfold result at failed
  split at failed
  · next members =>
      simp only at failed
      split at failed
      · split at failed
        · cases failed
        · exact ⟨_, (Except.error.inj failed).symm⟩
      · exact ⟨_, (Except.error.inj failed).symm⟩
  · exact ⟨_, (Except.error.inj failed).symm⟩

theorem result_eq_ok_iff {found : Json} {content : List (Text × Json)} :
    result found = .ok content ↔ ∃ members, found = .object members ∧
      (member "error" members).isFalsy = true ∧ member "result" members = .object content := by
  constructor
  · intro read
    unfold result at read
    split at read
    · next members =>
        simp only at read
        split at read
        · next absent =>
            split at read
            · next inner object =>
                cases read
                exact ⟨members, rfl, absent, object⟩
            · cases read
        · cases read
    · cases read
  · rintro ⟨members, rfl, absent, object⟩
    simp only [result, absent, if_true, object]

theorem response_error {content : List (Text × Json)} {failure : Failure}
    (failed : response content = .error failure) :
    (member "response" content).isFalsy = false ∧
      (∀ members, member "response" content ≠ .object members) ∧
      failure = .notAnObject (member "response" content).kind := by
  unfold response at failed
  simp only at failed
  split at failed
  · cases failed
  · next present =>
      split at failed
      · cases failed
      · next other =>
          exact ⟨by simpa using present, other, (Except.error.inj failed).symm⟩

theorem response_of_other {content : List (Text × Json)}
    (present : (member "response" content).isFalsy = false)
    (other : ∀ members, member "response" content ≠ .object members) :
    response content = .error (.notAnObject (member "response" content).kind) := by
  cases found : member "response" content with
  | object members => exact absurd found (other members)
  | _ =>
      rw [found] at present
      simp only [response, found, present, Bool.false_eq_true, if_false]

/-- A response that counts as absent has no value, like one without members. -/
theorem response_eq_ok {content found : List (Text × Json)}
    (read : response content = .ok found) :
    member "response" content = .object found ∨ found = [] := by
  unfold response at read
  simp only at read
  split at read
  · exact .inr (Except.ok.inj read).symm
  · split at read
    · next members object =>
        cases read
        exact .inl object
    · cases read

theorem response_of_object {content found : List (Text × Json)}
    (object : member "response" content = .object found) : response content = .ok found := by
  unfold response
  simp only [object]
  cases found with
  | nil => rfl
  | cons first rest => rfl

theorem value_text_error {value : Json} {failure : Failure}
    (failed : valueText value = .error failure) :
    value.isFalsy = false ∧ (∀ text, value ≠ .text text) ∧ failure = .notBase64Text value.kind := by
  unfold valueText at failed
  split at failed
  · cases failed
  · next present =>
      split at failed
      · cases failed
      · next other =>
          exact ⟨by simpa using present, other, (Except.error.inj failed).symm⟩

theorem value_text_of_other {value : Json} (present : value.isFalsy = false)
    (other : ∀ text, value ≠ .text text) :
    valueText value = .error (.notBase64Text value.kind) := by
  cases value with
  | text content => exact absurd rfl (other content)
  | _ => simp only [valueText, present, Bool.false_eq_true, if_false]

theorem epoch_of_text_bound {text : Text} {epoch : Nat}
    (read : epochOfText text = .ok (some epoch)) : epoch < Epoch.limit := by
  unfold epochOfText at read
  split at read
  · split at read
    · cases read
    · next bytes _ =>
        split at read
        · next found decoded =>
            cases read
            exact Epoch.decode?_bound decoded
        · cases read
  · cases read

theorem epoch_of_response_error {height : Numeral.Writable} {content : List (Text × Json)}
    {failure : Failure} (failed : epochOfResponse height content = .error failure) :
    failure.IsOfNode ∨
      (((Json.member? "code" content).getD (.int 0)).isZero = true ∧
        (member "value" content).isFalsy = false ∧ (∀ text, member "value" content ≠ .text text) ∧
        failure = .notBase64Text (member "value" content).kind) := by
  unfold epochOfResponse at failed
  simp only at failed
  split at failed
  · next accepted =>
      rcases monad_bind_eq_error_iff.mp failed with unread | ⟨text, _, rest⟩
      · exact .inr ⟨accepted, value_text_error unread⟩
      · split at rest
        · exact .inl ⟨_, (Except.error.inj rest).symm⟩
        · exact .inl ⟨_, (Except.error.inj rest).symm⟩
        · cases rest
  · exact .inl ⟨_, (Except.error.inj failed).symm⟩

theorem epoch_of_response_bound {height : Numeral.Writable} {content : List (Text × Json)}
    {epoch : Nat} (found : epochOfResponse height content = .ok epoch) : epoch < Epoch.limit := by
  unfold epochOfResponse at found
  simp only at found
  split at found
  · obtain ⟨text, _, rest⟩ := monad_bind_eq_ok_iff.mp found
    split at rest
    · cases rest
    · cases rest
    · next read =>
        cases rest
        exact epoch_of_text_bound read
  · cases found

end NodeReply

namespace Exchange

theorem epoch_bound {exchange : Exchange} {height : Numeral.Writable} {epoch : Nat}
    (found : exchange.epoch height = .ok epoch) : epoch < Epoch.limit := by
  cases exchange with
  | error fault =>
      rw [Exchange.epoch] at found
      split at found <;> cases found
  | ok reply =>
      rw [Exchange.epoch] at found
      split at found
      · obtain ⟨document, _, rest⟩ := monad_bind_eq_ok_iff.mp found
        obtain ⟨result, _, rest⟩ := monad_bind_eq_ok_iff.mp rest
        obtain ⟨response, _, rest⟩ := monad_bind_eq_ok_iff.mp rest
        exact NodeReply.epoch_of_response_bound rest
      · cases found

theorem epoch_error {exchange : Exchange} {height : Numeral.Writable} {failure : Failure}
    (failed : exchange.epoch height = .error failure) :
    failure.IsOfNode ∨ exchange.Unforeseen failure := by
  cases exchange with
  | error fault =>
      rw [Exchange.epoch] at failed
      split at failed
      · exact .inl ⟨_, (Except.error.inj failed).symm⟩
      · next foreign =>
          cases failed
          exact .inr (.transport (by simpa using foreign))
  | ok reply =>
      rw [Exchange.epoch] at failed
      split at failed
      · next good =>
          -- The document, the result, the response and the epoch in it: one of them is refused.
          rcases monad_bind_eq_error_iff.mp failed with unread | ⟨document, read, whole⟩
          · rcases NodeReply.document_error unread with ofNode | ⟨_, _, decoded, stopped, deep, rfl⟩
            · exact .inl ofNode
            · exact .inr (.depth good decoded stopped deep)
          rcases monad_bind_eq_error_iff.mp whole with missing | ⟨result, found, inside⟩
          · exact .inl (NodeReply.result_error missing)
          obtain ⟨members, rfl, absent, object⟩ := NodeReply.result_eq_ok_iff.mp found
          have answered : reply.HasResult result := ⟨good, members, read, absent, object⟩
          rcases monad_bind_eq_error_iff.mp inside with missing | ⟨response, inner, last⟩
          · obtain ⟨present, other, rfl⟩ := NodeReply.response_error missing
            exact .inr (.response answered present other)
          rcases NodeReply.epoch_of_response_error last with
            ofNode | ⟨accepted, present, other, rfl⟩
          · exact .inl ofNode
          rcases NodeReply.response_eq_ok inner with held | rfl
          · exact .inr (.value answered held accepted present other)
          -- Without members there is no value that could be of a wrong kind.
          · cases present
      · rcases Numeral.Writable.cases reply.status with ⟨status, named⟩ | long
        · rw [← named, Failure.naming_val] at failed
          exact .inl ⟨_, (Except.error.inj failed).symm⟩
        · rw [Failure.naming_of_long long] at failed
          cases failed
          exact .inr (.status long)

theorem epoch_of_result {reply : NodeReply} {result : List (Text × Json)}
    (answered : reply.HasResult result) (height : Numeral.Writable) :
    Exchange.epoch height (.ok reply) =
      NodeReply.response result >>= NodeReply.epochOfResponse height := by
  obtain ⟨members, read, absent, object⟩ := answered.document
  have found := NodeReply.result_eq_ok_iff.mpr ⟨members, rfl, absent, object⟩
  rw [Exchange.epoch, if_pos answered.good, read]
  change NodeReply.epochOfDocument height _ = _
  rw [NodeReply.epochOfDocument, found]
  rfl

theorem Unforeseen.epoch_eq {exchange : Exchange} {failure : Failure}
    (unforeseen : exchange.Unforeseen failure) (height : Numeral.Writable) :
    exchange.epoch height = .error failure := by
  cases unforeseen with
  | transport foreign => simp only [Exchange.epoch, foreign, Bool.false_eq_true, if_false]
  | @status reply long =>
      have bad : reply.status ≠ 200 := by
        intro good
        rw [good] at long
        exact absurd long (by decide)
      rw [Exchange.epoch, if_neg bad, Failure.naming_of_long long]
  | depth good decoded stopped deep =>
      rw [Exchange.epoch, if_pos good, NodeReply.document_of_depth decoded stopped deep]
      rfl
  | response answered present other =>
      rw [epoch_of_result answered, NodeReply.response_of_other present other]
      rfl
  | value answered held accepted present other =>
      have refused := NodeReply.value_text_of_other present other
      rw [epoch_of_result answered, NodeReply.response_of_object held]
      change NodeReply.epochOfResponse height _ = _
      rw [NodeReply.epochOfResponse, if_pos accepted, refused]
      rfl

theorem Unforeseen.not_of_node {exchange : Exchange} {failure : Failure}
    (unforeseen : exchange.Unforeseen failure) : ¬failure.IsOfNode := by
  rintro ⟨fault, rfl⟩
  cases unforeseen

theorem is_reachable_eq_ok_iff {exchange : Exchange} :
    (∃ reachable, exchange.isReachable = .ok reachable) ↔
      ∀ fault, exchange = .error fault → fault.kind.isHttpFault = true := by
  cases exchange with
  | ok reply => simp [Exchange.isReachable]
  | error fault => cases http : fault.kind.isHttpFault <;> simp [Exchange.isReachable, http]

end Exchange

namespace Node

theorem is_reachable_yields (node : Node) :
    node.isReachable.Yields node.health.isReachable := by
  intro session
  rw [outcome_is_reachable]

variable {node : Node} {height : Int}

theorem epoch_of_bound {epoch : Nat} (found : node.epochOf height = .ok epoch) :
    epoch < twoTo 64 := by
  rcases Numeral.Writable.cases height with ⟨written, rfl⟩ | long
  · rw [epoch_of_val] at found
    exact Epoch.limit_eq ▸ Exchange.epoch_bound found
  · rw [epoch_of_of_long long] at found
    cases found

theorem epoch_of_error {failure : Failure} (failed : node.epochOf height = .error failure) :
    failure.IsOfNode ∨ node.Unforeseen height failure := by
  rcases Numeral.Writable.cases height with ⟨written, rfl⟩ | long
  · rw [epoch_of_val] at failed
    exact (Exchange.epoch_error failed).imp id (.exchange written.property)
  · rw [epoch_of_of_long long] at failed
    cases failed
    exact .inr (.height long)

theorem Unforeseen.epoch_of_eq {failure : Failure} (unforeseen : node.Unforeseen height failure) :
    node.epochOf height = .error failure := by
  cases unforeseen with
  | height long => exact epoch_of_of_long long
  | exchange written unforeseen =>
      exact (epoch_of_val node ⟨height, written⟩).trans (unforeseen.epoch_eq _)

theorem Unforeseen.not_of_node {failure : Failure} (unforeseen : node.Unforeseen height failure) :
    ¬failure.IsOfNode := by
  cases unforeseen with
  | height long =>
      rintro ⟨fault, same⟩
      cases same
  | exchange written unforeseen => exact unforeseen.not_of_node

end Node

/-- A question for an epoch comes to a number of 64 bits or to an error of the node exactly where
it is none of the unforeseen ones; of these, each brings about its own failure, which is no error of
the node. Whether the node can be reached is known unless the way to it meets a fault that is none
of the exchange. -/
theorem node_boundary_closed_unless_unforeseen (node : Node) (height : Int) (session : Session) :
    let answer := ((node.epoch height).outcome session).1
    let reached := (node.isReachable.outcome session).1
    (((∃ epoch, epoch < twoTo 64 ∧ answer = .ok epoch) ∨ ∃ fault, answer = .error (.node fault)) ↔
        ¬∃ failure, node.Unforeseen height failure) ∧
      (∀ failure, node.Unforeseen height failure → answer = .error failure) ∧
      ((∃ reachable, reached = .ok reachable) ↔
        ∀ fault, node.health = .error fault → fault.kind.isHttpFault = true) := by
  intro answer reached
  have answerEq : answer = node.epochOf height := node.epoch_yields height session
  have reachedEq : reached = node.health.isReachable := node.is_reachable_yields session
  rw [answerEq, reachedEq]
  refine ⟨⟨?_, ?_⟩, fun failure unforeseen => unforeseen.epoch_of_eq,
    Exchange.is_reachable_eq_ok_iff⟩
  · rintro foreseen ⟨failure, unforeseen⟩
    rw [unforeseen.epoch_of_eq] at foreseen
    rcases foreseen with ⟨epoch, _, found⟩ | ⟨fault, failed⟩
    · cases found
    · exact unforeseen.not_of_node ⟨fault, Except.error.inj failed⟩
  · intro foreseen
    cases found : node.epochOf height with
    | ok epoch => exact .inl ⟨epoch, Node.epoch_of_bound found, rfl⟩
    | error failure =>
        rcases Node.epoch_of_error found with ⟨fault, rfl⟩ | unforeseen
        · exact .inr ⟨fault, rfl⟩
        · exact absurd ⟨failure, unforeseen⟩ foreseen

end BlockExplorer
